import Mathlib
import MemberSpec.ClassFile.Descriptor
import MemberSpec.Proofs.Blanks
import MemberSpec.Proofs.Pieces

/-!
# The language of method descriptors

The grammar of descriptors as a relation between texts and types: `(` types `)` and a return type,
where a type is a primitive's letter, `L` name `;`, or brackets before one of these.

* `parse?_of_denotes`: a text that the grammar derives is read as the types that it stands for.
* `denotes_of_parse?`: no other text is read.
* `denotes_encode`: every method type has a descriptor.
* `parse_decides_grammar`: what is read, what is refused, and what is read back.
-/

namespace MemberSpec.ClassFile.Descriptor

open Text

/-- The text of a type that is no array. -/
inductive IsPlain : List Char → JavaType → Prop
  | primitive (p : Primitive) : IsPlain [p.descriptor] (.primitive p)
  | reference {name : List Char} : name ≠ [] → ';' ∉ name →
      IsPlain ('L' :: (name ++ [';'])) (.reference (String.ofList (replaceChar '/' '.' name)))

/-- The text of a type. -/
inductive IsType : List Char → JavaType → Prop
  | plain {cs : List Char} {t : JavaType} : IsPlain cs t → IsType cs t
  | array {n : Nat} {cs : List Char} {t : JavaType} : 1 ≤ n → n ≤ maxDimensions → IsPlain cs t →
      IsType (List.replicate n '[' ++ cs) (.array t (UInt8.ofNat n))

/-- The text of a return type. -/
inductive IsReturn : List Char → JavaType → Prop
  | void : IsReturn ['V'] .void
  | type {cs : List Char} {t : JavaType} : IsType cs t → IsReturn cs t

/-- The descriptor stands for the types. -/
def Denotes (descriptor : String) (m : MethodType) : Prop :=
  ∃ parts returns, descriptor.toList = '(' :: (parts.flatten ++ ')' :: returns) ∧
    List.Forall₂ IsType parts m.parameters ∧ IsReturn returns m.returns

/-- The first character tells a type from a bracket, the closing parenthesis and `void`. -/
theorem IsPlain.head {cs : List Char} {t : JavaType} (h : IsPlain cs t) :
    ∃ c tail, cs = c :: tail ∧ c ≠ '[' ∧ c ≠ ')' ∧ c ≠ 'V' := by
  cases h with
  | primitive p => cases p <;> exact ⟨_, _, rfl, by decide, by decide, by decide⟩
  | reference _ _ => exact ⟨_, _, rfl, by decide, by decide, by decide⟩

theorem IsType.head {cs : List Char} {t : JavaType} (h : IsType cs t) :
    ∃ c tail, cs = c :: tail ∧ c ≠ ')' ∧ c ≠ 'V' := by
  cases h with
  | plain hplain =>
    obtain ⟨c, tail, rfl, -, h1, h2⟩ := hplain.head
    exact ⟨c, tail, rfl, h1, h2⟩
  | @array n _ _ hn _ _ =>
    obtain ⟨n, rfl⟩ : ∃ k, n = k + 1 := ⟨n - 1, by omega⟩
    exact ⟨'[', _, by rw [List.replicate_succ, List.cons_append], by decide, by decide⟩

/-- Brackets before a type that is no array end where the type starts. -/
theorem IsPlain.takeWhile_dropWhile_brackets {cs : List Char} {t : JavaType} (h : IsPlain cs t)
    (n : Nat) (rest : List Char) :
    (List.replicate n '[' ++ (cs ++ rest)).takeWhile (· == '[') = List.replicate n '[' ∧
      (List.replicate n '[' ++ (cs ++ rest)).dropWhile (· == '[') = cs ++ rest := by
  obtain ⟨c, tail, rfl, hc, -, -⟩ := h.head
  refine takeWhile_dropWhile_append (fun b hb => ?_) (fun b hb => ?_)
  · rw [List.eq_of_mem_replicate hb, beq_self_eq_true]
  · cases hb
    rwa [beq_eq_false_iff_ne]

theorem readPlain?_append {cs : List Char} {t : JavaType} (h : IsPlain cs t) (rest : List Char) :
    readPlain? (cs ++ rest) = some (t, rest) := by
  cases h with
  | primitive p => cases p <;> rfl
  | @reference name hne hfree =>
    have hname : ∀ c ∈ name, (c != ';') = true := by
      intro c hc
      simp only [bne_iff_ne]
      rintro rfl
      exact hfree hc
    have hend : ∀ c, (';' :: rest).head? = some c → (c != ';') = false := by
      intro c hc
      cases hc
      rfl
    obtain ⟨htake, hdrop⟩ := takeWhile_dropWhile_append hname hend
    have hempty : name.isEmpty = false := by simpa using hne
    rw [List.cons_append, List.append_assoc, List.singleton_append]
    simp only [readPlain?, htake, hdrop, hempty, Bool.false_eq_true, if_false]

theorem arrayOf_plain {cs : List Char} {t : JavaType} (h : IsPlain cs t) (n : UInt8) :
    JavaType.arrayOf t n = .array t n := by
  cases h <;> rfl

theorem readType?_append {cs : List Char} {t : JavaType} (h : IsType cs t) (rest : List Char) :
    readType? (cs ++ rest) = some (t, rest) := by
  cases h with
  | plain hplain =>
    obtain ⟨htake, hdrop⟩ := hplain.takeWhile_dropWhile_brackets 0 rest
    rw [List.replicate_zero, List.nil_append] at htake hdrop
    unfold readType?
    simp only [htake, hdrop, List.length_nil, beq_self_eq_true, if_true, readPlain?_append hplain]
  | @array n cs element hpos hmax hplain =>
    obtain ⟨htake, hdrop⟩ := hplain.takeWhile_dropWhile_brackets n rest
    have hzero : (n == 0) = false := by
      rw [beq_eq_false_iff_ne]
      omega
    unfold readType?
    simp only [List.append_assoc, htake, hdrop, List.length_replicate, hzero, Bool.false_eq_true,
      if_false, hmax, if_true, readPlain?_append hplain, Option.map_some, arrayOf_plain hplain]

/-- Each type takes one step of the fuel, and has a character at least. -/
theorem readTypes?_append {parts : List (List Char)} {types : List JavaType}
    (h : List.Forall₂ IsType parts types) (rest : List Char) {fuel : Nat}
    (hfuel : parts.length ≤ fuel) :
    readTypes? fuel (parts.flatten ++ ')' :: rest) = some (types, rest) := by
  induction h generalizing fuel with
  | nil => cases fuel <;> rfl
  | @cons part type parts types hpart _ ih =>
    obtain ⟨fuel, rfl⟩ : ∃ k, fuel = k + 1 := ⟨fuel - 1, by simp at hfuel; omega⟩
    have ih' := ih (show parts.length ≤ fuel by simpa using hfuel)
    have hread := readType?_append hpart (parts.flatten ++ ')' :: rest)
    obtain ⟨c, tail, rfl, hc, -⟩ := hpart.head
    rw [List.flatten_cons, List.append_assoc, List.cons_append] at *
    rw [readTypes?]
    · simp [hread, ih']
    -- no type starts with the parenthesis that ends the list
    · intro rest' hcontra
      exact hc (List.cons.inj hcontra).1

theorem length_le_of_forall₂ {parts : List (List Char)} {types : List JavaType}
    (h : List.Forall₂ IsType parts types) : parts.length ≤ parts.flatten.length := by
  induction h with
  | nil => exact le_rfl
  | cons hpart _ ih =>
    obtain ⟨c, tail, rfl, -⟩ := hpart.head
    simp only [List.length_cons, List.flatten_cons, List.length_append]
    omega

theorem readReturn?_of {cs : List Char} {t : JavaType} (h : IsReturn cs t) :
    readReturn? cs = some (t, []) := by
  cases h with
  | void => rfl
  | type htype =>
    have hread := readType?_append htype []
    obtain ⟨c, tail, rfl, -, hc⟩ := htype.head
    rw [List.append_nil] at hread
    rw [readReturn?]
    · exact hread
    · intro rest hcontra
      exact hc (List.cons.inj hcontra).1

/-- **Descriptors are read as what they stand for.** -/
theorem parse?_of_denotes {descriptor : String} {m : MethodType} (h : Denotes descriptor m) :
    parse? descriptor = some m := by
  obtain ⟨parts, returns, htext, hparts, hreturns⟩ := h
  have hfuel : parts.length ≤ (parts.flatten ++ ')' :: returns).length := by
    have := length_le_of_forall₂ hparts
    rw [List.length_append]
    omega
  unfold parse?
  rw [htext]
  simp only [readTypes?_append hparts returns hfuel, readReturn?_of hreturns, Option.bind_eq_bind,
    Option.bind_some, List.isEmpty_nil, if_true]

theorem parse_of_denotes {descriptor : String} {m : MethodType} (h : Denotes descriptor m) :
    parse descriptor = .ok m := by
  rw [parse, parse?_of_denotes h]

theorem descriptor_of_ofDescriptor? {c : Char} {p : Primitive}
    (h : Primitive.ofDescriptor? c = some p) : p.descriptor = c := by
  unfold Primitive.ofDescriptor? at h
  split at h <;> cases h <;> rfl

/-- What is read as a type that is no array is the text of one. -/
theorem readPlain?_sound {cs rest : List Char} {t : JavaType} (h : readPlain? cs = some (t, rest)) :
    ∃ text, cs = text ++ rest ∧ IsPlain text t := by
  unfold readPlain? at h
  split at h
  · rename_i cs
    split at h
    · cases h
    · rename_i c rest' hdrop
      -- the name ends where something is left to drop, and that is a semicolon
      have hc : c = ';' := by
        have hhead := List.head?_dropWhile_not (· != ';') cs
        rw [hdrop] at hhead
        simpa using hhead
      have hsplit := List.takeWhile_append_dropWhile (p := (· != ';')) (l := cs)
      have hfree : ';' ∉ cs.takeWhile (· != ';') := by
        intro hmem
        have := List.mem_takeWhile_imp hmem
        simp at this
      simp only at h
      split at h
      · cases h
      · rename_i hne
        cases h
        refine ⟨'L' :: (cs.takeWhile (· != ';') ++ [';']), ?_, .reference (by simpa using hne) hfree⟩
        conv_lhs => rw [← hsplit, hdrop, hc]
        simp
  · rename_i c cs _
    obtain ⟨p, hp, heq⟩ := Option.map_eq_some_iff.1 h
    cases heq
    exact ⟨[c], rfl, descriptor_of_ofDescriptor? hp ▸ .primitive p⟩
  · cases h

/-- What is read as a type is the text of one. -/
theorem readType?_sound {cs rest : List Char} {t : JavaType} (h : readType? cs = some (t, rest)) :
    ∃ text, cs = text ++ rest ∧ IsType text t := by
  have hbrackets : cs.takeWhile (· == '[') =
      List.replicate (cs.takeWhile (· == '[')).length '[' := by
    refine List.eq_replicate_of_mem fun c hc => ?_
    simpa using List.mem_takeWhile_imp hc
  have hsplit := List.takeWhile_append_dropWhile (p := (· == '[')) (l := cs)
  unfold readType? at h
  simp only at h
  split at h
  · rename_i hzero
    obtain ⟨text, htext, hplain⟩ := readPlain?_sound h
    rw [List.eq_nil_of_length_eq_zero (beq_iff_eq.1 hzero), List.nil_append] at hsplit
    exact ⟨text, by rw [← hsplit, htext], .plain hplain⟩
  · rename_i hzero
    have hpos := Nat.pos_of_ne_zero fun hlen => hzero (beq_iff_eq.2 hlen)
    split at h
    · rename_i hmax
      obtain ⟨⟨element, rest'⟩, hread, heq⟩ := Option.map_eq_some_iff.1 h
      obtain ⟨text, htext, hplain⟩ := readPlain?_sound hread
      simp only [arrayOf_plain hplain] at heq
      cases heq
      refine ⟨_, ?_, .array hpos hmax hplain⟩
      rw [← hbrackets, List.append_assoc, ← htext, hsplit]
    · cases h

/-- What is read up to the closing parenthesis is a row of texts of types. -/
theorem readTypes?_sound {fuel : Nat} {cs rest : List Char} {types : List JavaType}
    (h : readTypes? fuel cs = some (types, rest)) :
    ∃ parts, cs = parts.flatten ++ ')' :: rest ∧ List.Forall₂ IsType parts types := by
  fun_induction readTypes? fuel cs generalizing types with
  | case1 =>
    cases h
    exact ⟨[], rfl, .nil⟩
  | case2 => cases h
  | case3 cs fuel hclose ih =>
    obtain ⟨⟨type, rest₁⟩, htype, h⟩ := Option.bind_eq_some_iff.1 h
    obtain ⟨⟨types', rest₂⟩, htypes, h⟩ := Option.bind_eq_some_iff.1 h
    cases h
    obtain ⟨part, rfl, hpart⟩ := readType?_sound htype
    obtain ⟨parts, rfl, hparts⟩ := ih _ htypes
    exact ⟨part :: parts, by simp, .cons hpart hparts⟩

theorem readReturn?_sound {cs rest : List Char} {t : JavaType}
    (h : readReturn? cs = some (t, rest)) : ∃ text, cs = text ++ rest ∧ IsReturn text t := by
  unfold readReturn? at h
  split at h
  · cases h
    exact ⟨['V'], rfl, .void⟩
  · obtain ⟨text, htext, htype⟩ := readType?_sound h
    exact ⟨text, htext, .type htype⟩

/-- **Nothing else is read as a descriptor.** -/
theorem denotes_of_parse? {descriptor : String} {m : MethodType} (h : parse? descriptor = some m) :
    Denotes descriptor m := by
  unfold parse? at h
  split at h
  · rename_i cs htext
    obtain ⟨⟨parameters, rest⟩, hparameters, h⟩ := Option.bind_eq_some_iff.1 h
    obtain ⟨⟨returns, rest'⟩, hreturns, h⟩ := Option.bind_eq_some_iff.1 h
    simp only at hreturns h
    split at h
    · rename_i hempty
      cases h
      obtain ⟨parts, rfl, hparts⟩ := readTypes?_sound hparameters
      obtain ⟨text, rfl, hreturn⟩ := readReturn?_sound hreturns
      rw [List.isEmpty_iff.1 hempty, List.append_nil] at htext
      exact ⟨parts, text, htext, hparts, hreturn⟩
    · cases h
  · cases h

theorem parse?_eq_some_iff {descriptor : String} {m : MethodType} :
    parse? descriptor = some m ↔ Denotes descriptor m :=
  ⟨denotes_of_parse?, parse?_of_denotes⟩

/-- The brackets in front of a type are its dimensions: 255 of them still fit the byte. -/
theorem IsType.dimensions_eq {text : List Char} {element : JavaType} {n : UInt8}
    (h : IsType text (.array element n)) : n.toNat = (text.takeWhile (· == '[')).length := by
  cases h with
  | plain hplain => cases hplain
  | @array k cs _ hpos hmax hplain =>
    have htake := (hplain.takeWhile_dropWhile_brackets k []).1
    rw [List.append_nil] at htake
    rw [htake, List.length_replicate, UInt8.toNat_ofNat_of_lt' (Nat.lt_succ_of_le hmax)]

/-- A type that is no array, with a name that a descriptor can hold. -/
inductive IsElement : JavaType → Prop
  | primitive (p : Primitive) : IsElement (.primitive p)
  | reference {name : String} : name ≠ "" → '/' ∉ name.toList → ';' ∉ name.toList →
      IsElement (.reference name)

/-- A type of values: arrays are not nested and have a dimension at least. -/
inductive IsValueType : JavaType → Prop
  | element {t : JavaType} : IsElement t → IsValueType t
  | array {t : JavaType} {n : UInt8} : n ≠ 0 → IsElement t → IsValueType (.array t n)

/-- The types of a method: values as parameters, and a value or nothing as the result. -/
structure MethodType.IsProper (m : MethodType) : Prop where
  parameters : ∀ t ∈ m.parameters, IsValueType t
  returns : m.returns = .void ∨ IsValueType m.returns

/-- A type as a descriptor writes it. -/
def encodeType : JavaType → List Char
  | .void => ['V']
  | .primitive p => [p.descriptor]
  | .reference name => 'L' :: (replaceChar '.' '/' name.toList ++ [';'])
  | .array element n => List.replicate n.toNat '[' ++ encodeType element

/-- The descriptor of a method. -/
def encode (m : MethodType) : String :=
  String.ofList ('(' :: ((m.parameters.map encodeType).flatten ++ ')' :: encodeType m.returns))

theorem isPlain_encodeType {t : JavaType} (h : IsElement t) : IsPlain (encodeType t) t := by
  cases h with
  | primitive p => exact .primitive p
  | @reference name hne hslash hsemicolon =>
    have hname : replaceChar '.' '/' name.toList ≠ [] := by simpa [replaceChar] using hne
    have hfree : ';' ∉ replaceChar '.' '/' name.toList := by
      intro hmem
      rcases mem_replaceChar hmem with hc | hc
      · exact absurd hc (by decide)
      · exact hsemicolon hc.1
    have hplain := IsPlain.reference hname hfree
    rwa [replaceChar_replaceChar hslash, String.ofList_toList] at hplain

theorem isType_encodeType {t : JavaType} (h : IsValueType t) : IsType (encodeType t) t := by
  cases h with
  | element helement => exact .plain (isPlain_encodeType helement)
  | @array element n hn helement =>
    have hpos : 1 ≤ n.toNat := by
      rw [Nat.one_le_iff_ne_zero]
      intro hzero
      exact hn (UInt8.toNat_inj.1 hzero)
    have hmax : n.toNat ≤ maxDimensions := Nat.le_of_lt_succ n.toNat_lt
    have htype := IsType.array hpos hmax (isPlain_encodeType helement)
    rwa [UInt8.ofNat_toNat] at htype

/-- **Every method type has a descriptor.** -/
theorem denotes_encode {m : MethodType} (h : m.IsProper) : Denotes (encode m) m := by
  refine ⟨m.parameters.map encodeType, encodeType m.returns, ?_, ?_, ?_⟩
  · rw [encode, String.toList_ofList]
  · rw [List.forall₂_map_left_iff]
    exact List.forall₂_same.2 fun t ht => isType_encodeType (h.parameters t ht)
  · rcases h.returns with hvoid | hvalue
    · rw [hvoid]
      exact .void
    · exact .type (isType_encodeType hvalue)

theorem IsPlain.isElement {text : List Char} {t : JavaType} (h : IsPlain text t) : IsElement t := by
  cases h with
  | primitive p => exact .primitive p
  | @reference name hne hfree =>
    refine .reference ?_ ?_ ?_
    · simpa [replaceChar] using hne
    · rw [String.toList_ofList]
      intro hmem
      rcases mem_replaceChar hmem with hc | hc
      · exact absurd hc (by decide)
      · exact hc.2 rfl
    · rw [String.toList_ofList]
      intro hmem
      rcases mem_replaceChar hmem with hc | hc
      · exact absurd hc (by decide)
      · exact hfree hc.1

theorem IsType.isValueType {text : List Char} {t : JavaType} (h : IsType text t) :
    IsValueType t := by
  cases h with
  | plain hplain => exact .element hplain.isElement
  | @array k cs element hpos hmax hplain =>
    refine .array ?_ hplain.isElement
    intro hzero
    have hk := congrArg UInt8.toNat hzero
    rw [UInt8.toNat_ofNat_of_lt' (Nat.lt_succ_of_le hmax)] at hk
    exact absurd hk (Nat.ne_of_gt hpos)

theorem Denotes.isProper {descriptor : String} {m : MethodType} (h : Denotes descriptor m) :
    m.IsProper := by
  obtain ⟨parameters, result⟩ := m
  obtain ⟨parts, returns, -, hparts, hreturns⟩ := h
  constructor
  · have hvalues : List.Forall₂ (fun t _ => IsValueType t ∧ True) parameters parts :=
      hparts.flip.imp fun _ _ hpart => ⟨hpart.isValueType, trivial⟩
    exact ((List.forall₂_and_left _ _).1 hvalues).1
  · cases hreturns with
    | void => exact .inl rfl
    | type htype => exact .inr htype.isValueType

/-- **The reader decides the grammar.** A text is read as the types that it stands for, and is refused
as the fault that carries it iff it stands for none. The types that are read are proper: no array is
nested, and its dimensions are the brackets in front of it. Every proper method type is read back from
its descriptor. -/
theorem parse_decides_grammar :
    (∀ descriptor m, parse descriptor = .ok m ↔ Denotes descriptor m) ∧
    (∀ descriptor fault, parse descriptor = .error fault ↔
      fault = .badDescriptor descriptor ∧ ∀ m, ¬ Denotes descriptor m) ∧
    (∀ descriptor m, Denotes descriptor m → m.IsProper) ∧
    (∀ text element n, IsType text (.array element n) →
      n.toNat = (text.takeWhile (· == '[')).length) ∧
    (∀ m : MethodType, m.IsProper → parse (encode m) = .ok m) := by
  refine ⟨fun descriptor m => ?_, fun descriptor fault => ?_, fun _ _ h => h.isProper,
    fun _ _ _ h => h.dimensions_eq, fun m h => parse_of_denotes (denotes_encode h)⟩
  · rw [← parse?_eq_some_iff, parse]
    cases parse? descriptor <;> simp
  · simp only [← parse?_eq_some_iff, parse]
    cases parse? descriptor <;> simp [eq_comm]

/-- Names may hold parentheses, brackets and letters of primitives, and 255 dimensions are the most. -/
theorem parse_decides_grammar_limits :
    let m : MethodType := ⟨[.array (.primitive .long) 255, .reference "a.(I)[V"], .void⟩
    m.IsProper ∧ parse (encode m) = .ok m := by
  intro m
  have hm : m.IsProper := by
    refine ⟨fun t ht => ?_, .inl rfl⟩
    rcases List.mem_pair.1 ht with rfl | rfl
    · exact .array (by decide) (.primitive .long)
    · exact .element (.reference (by decide) (by decide) (by decide))
  exact ⟨hm, parse_decides_grammar.2.2.2.2 m hm⟩

end MemberSpec.ClassFile.Descriptor
