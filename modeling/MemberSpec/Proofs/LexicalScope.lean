import Mathlib
import MemberSpec.Proofs.Reconciliation
import MemberSpec.Proofs.Spelling

/-!
# Type variables by lexical scope

A written type denotes a type variable if it is an unqualified name that a type parameter in scope has:
in a member, a type parameter of the member or else of its class, and in the bounds of a class one of
the class only. A variable erases to its first bound, which is read where the variable is declared.

Keys look every type up by its last segment, among the type parameters of the member and then those of
the class. A type is *captured* if this finds a variable that the type does not denote.

* `find?_eq_denoted?_iff`: exactly the captured types are taken for other variables.
* `Variables.Erases.unique`, `exists_erases`: without cyclic bounds, every type has one erasure, and it is
  found with one step for each variable if no type on the way is captured.
* `key_erases_lexically`: keys have the lexical erasures of types that meet no captured one.
* `key_captures`: a qualified name and a bound of the class that are captured, with wrong keys.
-/

namespace MemberSpec.Erasure

open Text Source

/-- A type as it is written, with the last segment of its name apart from the qualifiers. -/
structure WrittenType where
  qualifiers : List Segment := []
  last : Segment
  dimensions : List Dimension := []
  trail : Blanks := .none
  names : ∀ s ∈ qualifiers ++ [last], IsTypeName s.name

namespace WrittenType

def spelling (w : WrittenType) : Spelling := ⟨w.qualifiers ++ [w.last], w.dimensions, w.trail⟩

def text (w : WrittenType) : String := String.ofList w.spelling.text

def simpleName (w : WrittenType) : String := String.ofList w.last.name

theorem headOf_text (w : WrittenType) (n : Nat) :
    headOf (w.text ++ brackets n) = (w.simpleName, w.dimensions.length + n) :=
  Erasure.headOf_text w.names (by simp [spelling]) n

end WrittenType

/-- A type parameter with its bounds. -/
structure TypeVariable where
  name : String
  bounds : List WrittenType

/-- The type parameter as the declaration has it, with bounds as texts. -/
def TypeVariable.parameter (v : TypeVariable) : TypeParameter :=
  ⟨v.name, v.bounds.map WrittenType.text⟩

/-- Where a type parameter is declared, and where a type is written. -/
inductive Level where
  | ofClass | ofMember
deriving DecidableEq

/-- The type parameters of a class and of one of its members. -/
structure Variables where
  ofClass : List TypeVariable
  ofMember : List TypeVariable

namespace Variables

variable {vs : Variables} {level l : Level} {w b : WrittenType} {v : TypeVariable}

/-- The variables that can be named at a level, innermost first, with the levels of their own. -/
def inScope (vs : Variables) : Level → List (Level × TypeVariable)
  | .ofClass => vs.ofClass.map (Level.ofClass, ·)
  | .ofMember => vs.ofMember.map (Level.ofMember, ·) ++ vs.ofClass.map (Level.ofClass, ·)

/-- The variable with a name, as seen from a level. -/
def find? (vs : Variables) (level : Level) (name : String) : Option (Level × TypeVariable) :=
  (vs.inScope level).find? (·.2.name == name)

/-- The variable that a type denotes where it is written. A qualified name denotes none. -/
def denoted? (vs : Variables) (level : Level) (w : WrittenType) : Option (Level × TypeVariable) :=
  if w.qualifiers = [] then vs.find? level w.simpleName else none

/-- **Erasure by scope.** A type that denotes no variable erases to its last segment, and one that does
to the erasure of the variable's first bound, which is read at the level of the variable. -/
inductive Erases (vs : Variables) : Level → WrittenType → String → Prop where
  | type {level : Level} {w : WrittenType} : vs.denoted? level w = none →
      Erases vs level w (w.simpleName ++ brackets w.dimensions.length)
  | unbounded {level l : Level} {w : WrittenType} {v : TypeVariable} :
      vs.denoted? level w = some (l, v) → v.bounds = [] →
      Erases vs level w ("Object" ++ brackets w.dimensions.length)
  | bounded {level l : Level} {w b : WrittenType} {v : TypeVariable} {bs : List WrittenType}
      {r : String} : vs.denoted? level w = some (l, v) → v.bounds = b :: bs → Erases vs l b r →
      Erases vs level w (r ++ brackets w.dimensions.length)

/-- A type denotes a variable whose first bound is the other one. -/
def Leads (vs : Variables) (t t' : Level × WrittenType) : Prop :=
  ∃ v bs, vs.denoted? t.1 t.2 = some (t'.1, v) ∧ v.bounds = t'.2 :: bs

/-- No bound leads back to itself. -/
def Acyclic (vs : Variables) : Prop := ∀ t, ¬ Relation.TransGen vs.Leads t t

/-- The last segment of a type names a variable that the type does not denote: the name is qualified, or
it stands in a bound of the class and the variable is one of the member. -/
def Captured (vs : Variables) (level : Level) (w : WrittenType) : Prop :=
  (w.qualifiers ≠ [] ∧ ∃ v ∈ vs.ofMember ++ vs.ofClass, v.name = w.simpleName) ∨
    (w.qualifiers = [] ∧ level = .ofClass ∧ ∃ v ∈ vs.ofMember, v.name = w.simpleName)

/-- No type that is met on the way to the erasure is captured. -/
def Clear (vs : Variables) (level : Level) (w : WrittenType) : Prop :=
  ∀ t, Relation.ReflTransGen vs.Leads (level, w) t → ¬ vs.Captured t.1 t.2

/-- The type parameters of the member before those of the class. -/
def parameters (vs : Variables) : List TypeParameter :=
  vs.ofMember.map TypeVariable.parameter ++ vs.ofClass.map TypeVariable.parameter

/-- What a key looks up is the variable that the member names so. -/
theorem find?_parameters (vs : Variables) (name : String) :
    vs.parameters.find? (·.name == name) = (vs.find? .ofMember name).map (·.2.parameter) := by
  have hparameters : vs.parameters = (vs.inScope .ofMember).map (·.2.parameter) := by
    rw [parameters, inScope, List.map_append, List.map_map, List.map_map]
    rfl
  rw [hparameters, List.find?_map]
  rfl

theorem inScope_subset (vs : Variables) (level : Level) : vs.inScope level ⊆ vs.inScope .ofMember := by
  cases level with
  | ofClass => exact List.subset_append_right _ _
  | ofMember => exact List.Subset.refl _

theorem of_denoted?_eq_some {x : Level × TypeVariable} (h : vs.denoted? level w = some x) :
    w.qualifiers = [] ∧ x ∈ vs.inScope level ∧ x.2.name = w.simpleName := by
  unfold denoted? at h
  split at h
  · rename_i hqualifiers
    exact ⟨hqualifiers, List.mem_of_find?_eq_some h, by simpa using List.find?_some h⟩
  · cases h

theorem find?_map_eq_none_iff {xs : List TypeVariable} {name : String} :
    (xs.map (l, ·)).find? (·.2.name == name) = none ↔ ¬ ∃ v ∈ xs, v.name = name := by
  simp [List.find?_eq_none]

/-- **Exactly the captured types are taken for other variables**, or for variables at all. -/
theorem find?_eq_denoted?_iff :
    vs.find? .ofMember w.simpleName = vs.denoted? level w ↔ ¬ vs.Captured level w := by
  by_cases hqualifiers : w.qualifiers = []
  · simp only [denoted?, Captured, hqualifiers, if_true, ne_eq, not_true_eq_false, false_and,
      false_or, true_and]
    cases level with
    | ofMember => simp
    | ofClass =>
      simp only [find?, inScope, List.find?_append, true_and]
      rw [← find?_map_eq_none_iff (l := .ofMember)]
      cases hmember : (vs.ofMember.map (Level.ofMember, ·)).find? (·.2.name == w.simpleName) with
      | none => simp
      | some x =>
        -- the class has a variable of its own with the name, or none, but not the member's
        have hx : x.1 = .ofMember := by
          obtain ⟨v, -, rfl⟩ := List.mem_map.1 (List.mem_of_find?_eq_some hmember)
          rfl
        simp only [Option.some_or, reduceCtorEq, iff_false]
        intro hclass
        obtain ⟨v, -, rfl⟩ := List.mem_map.1 (List.mem_of_find?_eq_some hclass.symm)
        cases hx
  · simp only [denoted?, Captured, hqualifiers, if_false, ne_eq, not_false_eq_true, true_and,
      false_and, or_false, find?, inScope, List.find?_append, Option.or_eq_none_iff,
      find?_map_eq_none_iff, List.mem_append]
    grind

/-- On the way from the type to its erasure a variable is replaced by its bound. -/
def Reaches (vs : Variables) (level : Level) (w : WrittenType) (x : Level × TypeVariable) : Prop :=
  ∃ t, Relation.ReflTransGen vs.Leads (level, w) t ∧ vs.denoted? t.1 t.2 = some x

theorem Leads.reaches {t : Level × WrittenType} {x : Level × TypeVariable}
    (h : vs.Leads (level, w) t) (hx : vs.Reaches t.1 t.2 x) : vs.Reaches level w x := by
  obtain ⟨t', hlead, ht'⟩ := hx
  exact ⟨t', .head h hlead, ht'⟩

/-- Without cycles, the bound of a variable does not lead to the variable again. -/
theorem Acyclic.not_reaches (h : vs.Acyclic) {bs : List WrittenType} (hbounds : v.bounds = b :: bs) :
    ¬ vs.Reaches l b (l, v) := by
  rintro ⟨t, hlead, ht⟩
  have hback : vs.Leads t (l, b) := ⟨v, bs, ht, hbounds⟩
  exact h (l, b) (Relation.TransGen.tail' hlead hback)

theorem Clear.next (h : vs.Clear level w) {t : Level × WrittenType} (ht : vs.Leads (level, w) t) :
    vs.Clear t.1 t.2 :=
  fun t' hlead => h t' (.head ht hlead)

/-- **One step of a key's erasure**, at a type that is not captured. -/
theorem eraseWithin_succ (h : ¬ vs.Captured level w) (steps n : Nat) :
    eraseWithin vs.parameters (steps + 1) (w.text ++ brackets n) =
      (match vs.denoted? level w with
        | none => w.simpleName
        | some (_, v) =>
          match v.bounds with
          | [] => "Object"
          | b :: _ => eraseWithin vs.parameters steps b.text) ++
        brackets (w.dimensions.length + n) := by
  have hfind := find?_parameters vs w.simpleName
  rw [find?_eq_denoted?_iff.2 h] at hfind
  simp only [eraseWithin, WrittenType.headOf_text, hfind]
  cases vs.denoted? level w with
  | none => rfl
  | some x =>
    obtain ⟨l, v⟩ := x
    simp only [Option.map_some, TypeVariable.parameter]
    cases v.bounds with
    | nil => rfl
    | cons b bs => rfl

/-- **Erasure by scope and by keys.** Without cyclic bounds a type has an erasure. Every step towards it
takes one of the variables for good, so a key finds it with a step for each variable that is left, as
long as no type on the way is captured. -/
theorem exists_erases (hacyclic : vs.Acyclic) {steps : Nat}
    {left : List (Level × TypeVariable)} (hlen : left.length ≤ steps)
    (hreach : ∀ x, vs.Reaches level w x → x ∈ left) :
    ∃ r, vs.Erases level w r ∧ (vs.Clear level w →
      ∀ n, eraseWithin vs.parameters steps (w.text ++ brackets n) = r ++ brackets n) := by
  classical
  induction steps generalizing level w left with
  | zero =>
    have hnone : vs.denoted? level w = none := by
      rw [Option.eq_none_iff_forall_ne_some]
      intro x hx
      have hmem := hreach x ⟨_, .refl, hx⟩
      rw [List.eq_nil_of_length_eq_zero (Nat.le_zero.1 hlen)] at hmem
      cases hmem
    refine ⟨_, .type hnone, fun _ n => ?_⟩
    simp only [eraseWithin, WrittenType.headOf_text, brackets_add, String.append_assoc]
  | succ steps ih =>
    have hstep := fun hclear : vs.Clear level w => eraseWithin_succ (hclear (level, w) .refl) steps
    cases hdenoted : vs.denoted? level w with
    | none =>
      refine ⟨_, .type hdenoted, fun hclear n => ?_⟩
      rw [hstep hclear, hdenoted, brackets_add, String.append_assoc]
    | some x =>
      obtain ⟨l, v⟩ := x
      cases hbounds : v.bounds with
      | nil =>
        refine ⟨_, .unbounded hdenoted hbounds, fun hclear n => ?_⟩
        rw [hstep hclear, hdenoted]
        simp only [hbounds, brackets_add, String.append_assoc]
      | cons b bs =>
        have hlead : vs.Leads (level, w) (l, b) := ⟨v, bs, hdenoted, hbounds⟩
        have hmem : (l, v) ∈ left := hreach _ ⟨_, .refl, hdenoted⟩
        -- the variable is met only once, so it is not among those that are left
        have hothers : ∀ y, vs.Reaches l b y → y ∈ left.erase (l, v) := by
          intro y hy
          have hne : y ≠ (l, v) := by
            rintro rfl
            exact hacyclic.not_reaches hbounds hy
          exact (List.mem_erase_of_ne hne).2 (hreach y (hlead.reaches hy))
        have hlen' : (left.erase (l, v)).length ≤ steps := by
          rw [List.length_erase_of_mem hmem]
          omega
        obtain ⟨r, hr, hkey⟩ := ih hlen' hothers
        refine ⟨_, .bounded hdenoted hbounds hr, fun hclear n => ?_⟩
        have hbound := hkey (hclear.next hlead) 0
        rw [hstep hclear, hdenoted]
        rw [show brackets 0 = "" from rfl, String.append_empty, String.append_empty] at hbound
        simp only [hbounds, hbound, brackets_add, String.append_assoc]

/-- A type has one erasure at most. -/
theorem Erases.unique {r r' : String} (h : vs.Erases level w r) (h' : vs.Erases level w r') :
    r = r' := by
  induction h generalizing r' with
  | type hnone => cases h' <;> simp_all
  | unbounded hsome hnil => cases h' <;> simp_all
  | bounded hsome hcons _ ih =>
    cases h' with
    | type hnone => simp_all
    | unbounded hsome' hnil => simp_all
    | bounded hsome' hcons' hr' =>
      obtain ⟨rfl, rfl⟩ := Prod.mk.inj (Option.some.inj (hsome.symm.trans hsome'))
      obtain ⟨rfl, -⟩ := List.cons.inj (hcons.symm.trans hcons')
      rw [ih hr']

/-- **Keys have lexical erasures.** Without cyclic bounds, the type of a parameter has exactly one
erasure by scope, and the key of the declaration has it, with the dimensions that are not written at
the type, if no type on the way is captured. -/
theorem key_erases_lexically (hacyclic : vs.Acyclic) {d : Source.Callable}
    (hmember : d.typeParameters = vs.ofMember.map TypeVariable.parameter)
    {i : Nat} {p : Source.Parameter} (hp : d.parameters[i]? = some p) (hw : p.type = w.text) :
    ∃ r, (∀ r', vs.Erases .ofMember w r' ↔ r' = r) ∧
      (vs.Clear .ofMember w →
        (MatchKey.ofDeclaration (vs.ofClass.map TypeVariable.parameter) d).parameterTypes[i]? =
          some (r ++ brackets (p.extraDimensions + if p.isVarargs then 1 else 0))) := by
  have hlen : (vs.inScope .ofMember).length ≤ vs.parameters.length := by
    simp [inScope, parameters]
  have hreach : ∀ x, vs.Reaches .ofMember w x → x ∈ vs.inScope .ofMember := by
    rintro x ⟨t, -, ht⟩
    exact vs.inScope_subset t.1 (of_denoted?_eq_some ht).2.1
  obtain ⟨r, hr, hkey⟩ := exists_erases hacyclic hlen hreach
  refine ⟨r, fun r' => ⟨fun hr' => hr'.unique hr, ?_⟩, fun hclear => ?_⟩
  · rintro rfl
    exact hr
  · have hparameters : d.typeParameters ++ vs.ofClass.map TypeVariable.parameter = vs.parameters := by
      rw [hmember]
      rfl
    simp only [MatchKey.ofDeclaration, List.getElem?_map, hp, Option.map_some, hparameters,
      Source.Parameter.fullType, hw, erase, hkey hclear]

instance (vs : Variables) (level : Level) (w : WrittenType) : Decidable (vs.Captured level w) :=
  inferInstanceAs (Decidable (_ ∨ _))

/-- A way to see that no captured type is met: the type itself is not captured, and no first bound of a
variable is. -/
theorem clear_of_bounds (hw : ¬ vs.Captured level w)
    (hbounds : ∀ x ∈ vs.inScope .ofMember, ∀ b ∈ x.2.bounds.head?, ¬ vs.Captured x.1 b) :
    vs.Clear level w := by
  intro t ht
  rcases ht.cases_tail with rfl | ⟨t', -, v, bs, hv, hbound⟩
  · exact hw
  · have hmem := vs.inScope_subset t'.1 (of_denoted?_eq_some hv).2.1
    exact hbounds _ hmem t.2 (by simp [hbound])

/-- Bounds are not cyclic if each one has a name of lower rank than its variable. -/
theorem acyclic_of_rank (rank : String → Nat)
    (h : ∀ x ∈ vs.inScope .ofMember, ∀ b ∈ x.2.bounds.head?,
      rank b.simpleName < rank x.2.name) : vs.Acyclic := by
  have hstep : ∀ t t', vs.Leads t t' → rank t'.2.simpleName < rank t.2.simpleName := by
    rintro t t' ⟨v, bs, hv, hbound⟩
    obtain ⟨-, hmem, hname⟩ := of_denoted?_eq_some hv
    rw [← hname]
    exact h _ (vs.inScope_subset t.1 hmem) t'.2 (by simp [hbound])
  have hrun : ∀ t t', Relation.TransGen vs.Leads t t' →
      rank t'.2.simpleName < rank t.2.simpleName := by
    intro t t' htrans
    induction htrans with
    | single hlead => exact hstep _ _ hlead
    | tail _ hlead ih => exact (hstep _ _ hlead).trans ih
  intro t ht
  exact lt_irrefl _ (hrun t t ht)

end Variables

/-- An unqualified name as a written type. -/
def WrittenType.ofName (name : String) (h : IsTypeName name.toList) : WrittenType where
  last := .ofName name.toList
  names := by
    intro s hs
    rw [List.nil_append, List.mem_singleton] at hs
    rw [hs]
    exact h

/-- `class Box<T extends Number, E>` with a member `<T extends E, U extends T>`. -/
def shadowing : Variables where
  ofClass := [⟨"T", [.ofName "Number" (by decide)]⟩, ⟨"E", []⟩]
  ofMember := [⟨"T", [.ofName "E" (by decide)]⟩, ⟨"U", [.ofName "T" (by decide)]⟩]

/-- `<T extends E, U extends T> put(U... values[])`. -/
def shadowingMember : Source.Callable :=
  { publicDeclaration "put" [] with
    typeParameters := shadowing.ofMember.map TypeVariable.parameter
    parameters := [⟨"U", "values", [], true, 1⟩] }

theorem key_erases_lexically_shadowing :
    shadowing.Acyclic ∧ shadowing.Clear .ofMember (.ofName "U" (by decide)) ∧
      ∃ r, (∀ r', shadowing.Erases .ofMember (.ofName "U" (by decide)) r' ↔ r' = r) ∧
        (MatchKey.ofDeclaration (shadowing.ofClass.map TypeVariable.parameter)
          shadowingMember).parameterTypes[0]? = some (r ++ brackets 2) := by
  have hacyclic : shadowing.Acyclic :=
    Variables.acyclic_of_rank
      (fun name => if name = "U" then 3 else if name = "T" then 2 else if name = "E" then 1 else 0)
      (by decide +kernel)
  have hclear : shadowing.Clear .ofMember (.ofName "U" (by decide)) :=
    Variables.clear_of_bounds (by decide +kernel) (by decide +kernel)
  have hp : shadowingMember.parameters[0]? = some ⟨"U", "values", [], true, 1⟩ := rfl
  have hw : "U" = (WrittenType.ofName "U" (by decide)).text := by decide +kernel
  obtain ⟨r, hr, hkey⟩ := Variables.key_erases_lexically hacyclic rfl hp hw
  exact ⟨hacyclic, hclear, r, hr, hkey hclear⟩

/-- `class Box<T>`. -/
def boxVariables : Variables := ⟨[⟨"T", []⟩], []⟩

/-- `acme.T`. -/
def acmeType : WrittenType where
  qualifiers := [.ofName "acme".toList]
  last := .ofName "T".toList
  names := by decide +kernel

/-- `class Box<T, U extends T>` with a member `<T extends Number>`. -/
def hiddenVariables : Variables where
  ofClass := [⟨"T", []⟩, ⟨"U", [.ofName "T" (by decide)]⟩]
  ofMember := [⟨"T", [.ofName "Number" (by decide)]⟩]

/-- **Captured names make wrong keys.** The qualified name `acme.T` is taken for the type variable `T`,
and `U` erases to `Number`, the bound of the member's `T`, and not to that of the `T` of its class. -/
theorem key_captures :
    (boxVariables.Acyclic ∧ boxVariables.Erases .ofMember acmeType "T" ∧
      (MatchKey.ofDeclaration (boxVariables.ofClass.map TypeVariable.parameter)
        (publicDeclaration "put" [acmeType.text])).parameterTypes = ["Object"]) ∧
    (hiddenVariables.Acyclic ∧ hiddenVariables.Erases .ofMember (.ofName "U" (by decide)) "Object" ∧
      (MatchKey.ofDeclaration (hiddenVariables.ofClass.map TypeVariable.parameter)
        { publicDeclaration "put" ["U"] with
          typeParameters := hiddenVariables.ofMember.map TypeVariable.parameter }).parameterTypes =
        ["Number"]) := by
  refine ⟨⟨?_, ?_, by decide +kernel⟩, ?_, ?_, by decide +kernel⟩
  · exact Variables.acyclic_of_rank (fun _ => 0) (by decide +kernel)
  · exact Variables.Erases.type rfl
  · exact Variables.acyclic_of_rank
      (fun name => if name = "U" then 2 else if name = "T" then 1 else 0) (by decide +kernel)
  · have hbounded : hiddenVariables.denoted? .ofMember (.ofName "U" (by decide)) =
        some (.ofClass, ⟨"U", [.ofName "T" (by decide)]⟩) := rfl
    have hunbounded : hiddenVariables.denoted? .ofClass (.ofName "T" (by decide)) =
        some (.ofClass, ⟨"T", []⟩) := rfl
    exact Variables.Erases.bounded hbounded rfl (.unbounded hunbounded rfl)

end MemberSpec.Erasure
