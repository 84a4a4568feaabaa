import Mathlib
import MemberSpec.Erasure
import MemberSpec.Proofs.Pieces

/-!
# Spellings of a type

A type can be written in a declaration in many ways: with or without qualifiers, with type arguments
behind each segment, with blanks between the tokens, and with its dimensions at the type, behind the
parameter's name or as variable arity. `Spelling.Spells` says which texts are spellings of a compiled
type.

* `Strips cs kept`: outside type arguments, erasure keeps `kept` of `cs`, whatever follows.
* `headOf_text`: the head of a written type is its last segment with all dimensions.
* `erase_fullType_of_spells`: every spelling erases to the simple name of the type.
-/

namespace MemberSpec

open Text Source

namespace Erasure

/-- Text in which every `<` has its `>`. -/
inductive Balanced : List Char → Prop where
  | nil : Balanced []
  | cons {c : Char} {cs : List Char} : c ≠ '<' → c ≠ '>' → Balanced cs → Balanced (c :: cs)
  | group {inner cs : List Char} : Balanced inner → Balanced cs →
      Balanced ('<' :: (inner ++ '>' :: cs))

theorem stripArguments_open (depth : Nat) (cs : List Char) :
    stripArguments depth ('<' :: cs) = stripArguments (depth + 1) cs := by
  simp [stripArguments]

theorem stripArguments_close (depth : Nat) (cs : List Char) :
    stripArguments depth ('>' :: cs) = stripArguments (depth - 1) cs := by
  simp [stripArguments]

/-- Inside a group, balanced text is dropped and leaves the depth as it was. -/
theorem stripArguments_balanced {cs : List Char} (h : Balanced cs) (depth : Nat)
    (rest : List Char) :
    stripArguments (depth + 1) (cs ++ rest) = stripArguments (depth + 1) rest := by
  induction h generalizing depth rest with
  | nil => rfl
  | cons hopen hclose _ ih =>
    rw [List.cons_append, stripArguments]
    simp [hopen, hclose, ih]
  | group _ _ ihInner ih =>
    rw [List.cons_append, stripArguments_open, List.append_assoc, ihInner, List.cons_append,
      stripArguments_close, Nat.add_sub_cancel, ih]

theorem stripArguments_group {inner : List Char} (h : Balanced inner) (depth : Nat)
    (rest : List Char) :
    stripArguments depth ('<' :: (inner ++ '>' :: rest)) = stripArguments depth rest := by
  rw [stripArguments_open, stripArguments_balanced h, stripArguments_close, Nat.add_sub_cancel]

/-- A character that erasure keeps outside type arguments. -/
def IsKept (c : Char) : Prop := c ≠ '<' ∧ c ≠ '>' ∧ isBlank c = false

instance : DecidablePred IsKept := fun _ => inferInstanceAs (Decidable (_ ∧ _))

/-- Outside type arguments, `kept` is left of `cs`, whatever follows. -/
def Strips (cs kept : List Char) : Prop :=
  ∀ rest, stripArguments 0 (cs ++ rest) = kept ++ stripArguments 0 rest

theorem Strips.append {cs ds kept kept' : List Char} (h : Strips cs kept) (h' : Strips ds kept') :
    Strips (cs ++ ds) (kept ++ kept') := by
  intro rest
  rw [List.append_assoc, h, h', List.append_assoc]

theorem strips_kept {cs : List Char} (h : ∀ c ∈ cs, IsKept c) : Strips cs cs := by
  intro rest
  induction cs with
  | nil => rfl
  | cons c cs ih =>
    obtain ⟨hopen, hclose, hblank⟩ := h c List.mem_cons_self
    rw [List.cons_append, stripArguments, ih fun c hc => h c (List.mem_cons_of_mem _ hc)]
    simp [hopen, hclose, hblank]

theorem strips_singleton {c : Char} (h : IsKept c) : Strips [c] [c] :=
  strips_kept (List.forall_mem_singleton.2 h)

theorem strips_blank {cs : List Char} (h : cs.all isBlank = true) : Strips cs [] := by
  intro rest
  induction cs with
  | nil => rfl
  | cons c cs ih =>
    rw [List.all_cons, Bool.and_eq_true] at h
    have hopen : c ≠ '<' := by rintro rfl; exact absurd h.1 (by decide)
    have hclose : c ≠ '>' := by rintro rfl; exact absurd h.1 (by decide)
    rw [List.cons_append, stripArguments, ih h.2]
    simp [hopen, hclose, h.1]

theorem strips_intercalate {α : Type} {s : Char} (hs : IsKept s) {text kept : α → List Char}
    {pieces : List α} (h : ∀ piece ∈ pieces, Strips (text piece) (kept piece)) :
    Strips (List.intercalate [s] (pieces.map text)) (List.intercalate [s] (pieces.map kept)) := by
  induction pieces with
  | nil => exact fun _ => rfl
  | cons piece pieces ih =>
    have hpiece := h piece List.mem_cons_self
    rcases eq_or_ne pieces [] with rfl | hne
    · simpa using hpiece
    · have hrest := ih fun piece hp => h piece (List.mem_cons_of_mem _ hp)
      rw [List.map_cons, List.map_cons, List.intercalate_cons_of_ne_nil (by simpa using hne),
        List.intercalate_cons_of_ne_nil (by simpa using hne)]
      exact (hpiece.append (strips_singleton hs)).append hrest

theorem repeated_add (m n : Nat) (cs : List Char) :
    repeated (m + n) cs = repeated m cs ++ repeated n cs := by
  rw [repeated, List.replicate_add, List.flatten_append]
  rfl

theorem brackets_add (m n : Nat) : brackets (m + n) = brackets m ++ brackets n := by
  rw [brackets, repeated_add, String.ofList_append]
  rfl

theorem strips_brackets (n : Nat) : Strips (repeated n ['[', ']']) (repeated n ['[', ']']) := by
  refine strips_kept fun c hc => ?_
  obtain ⟨piece, hpiece, hc⟩ := List.mem_flatten.1 hc
  rw [List.eq_of_mem_replicate hpiece] at hc
  rcases List.mem_pair.1 hc with rfl | rfl <;> decide

theorem countBrackets_repeated (n : Nat) (rest : List Char) :
    countBrackets (repeated n [']', '['] ++ rest) =
      (n + (countBrackets rest).1, (countBrackets rest).2) := by
  induction n with
  | zero => simp [repeated]
  | succ n ih =>
    rw [repeated, List.replicate_succ, List.flatten_cons, List.append_assoc]
    rw [repeated] at ih
    simp [countBrackets, ih, Nat.add_right_comm]

/-- Bracket pairs behind a text count as further dimensions. -/
theorem splitDimensions_brackets (n : Nat) (cs : List Char) :
    splitDimensions (cs ++ repeated n ['[', ']']) =
      ((splitDimensions cs).1, (splitDimensions cs).2 + n) := by
  have hreverse : (repeated n ['[', ']']).reverse = repeated n [']', '['] := by
    simp [repeated, List.reverse_flatten]
  rw [splitDimensions, splitDimensions, List.reverse_append, hreverse, countBrackets_repeated,
    Nat.add_comm]

/-- Exactly the bracket pairs behind a text are counted as its dimensions. -/
theorem splitDimensions_append (n : Nat) {cs : List Char} (h : cs.getLast? ≠ some ']') :
    splitDimensions (cs ++ repeated n ['[', ']']) = (cs, n) := by
  have hhead : cs.reverse.head? ≠ some ']' := by rwa [List.head?_reverse]
  have hnone : countBrackets cs.reverse = (0, cs.reverse) := by
    unfold countBrackets
    split
    · next heq => simp [heq] at hhead
    · rfl
  rw [splitDimensions_brackets, splitDimensions, hnone]
  simp

end Erasure

/-- Blanks between two tokens. -/
structure Blanks where
  chars : List Char := []
  blank : chars.all isBlank = true := by decide

def Blanks.none : Blanks := {}

/-- Type arguments as written, without the outer angle brackets. -/
structure TypeArguments where
  inner : List Char
  balanced : Erasure.Balanced inner

/-- A segment of a written name: the name, and type arguments if there are any. -/
structure Segment where
  lead : Blanks := {}
  name : List Char
  gap : Blanks := {}
  arguments : Option TypeArguments := none
  trail : Blanks := {}

/-- A segment that is a name on its own. -/
def Segment.ofName (name : List Char) : Segment := { name := name }

/-- A written pair of brackets. -/
structure Dimension where
  lead : Blanks := {}
  gap : Blanks := {}

/-- A type as it is written in a declaration. -/
structure Spelling where
  segments : List Segment
  dimensions : List Dimension
  trail : Blanks := {}

def TypeArguments.text (a : TypeArguments) : List Char := '<' :: (a.inner ++ ['>'])

def Segment.text (s : Segment) : List Char :=
  s.lead.chars ++ s.name ++ s.gap.chars ++ (s.arguments.map TypeArguments.text).getD [] ++
    s.trail.chars

def Dimension.text (d : Dimension) : List Char :=
  d.lead.chars ++ ['['] ++ d.gap.chars ++ [']']

def Spelling.text (w : Spelling) : List Char :=
  List.intercalate ['.'] (w.segments.map Segment.text) ++ w.dimensions.flatMap Dimension.text ++
    w.trail.chars

/-- The names of the segments, joined by dots. -/
def Spelling.qualifiedName (w : Spelling) : List Char :=
  List.intercalate ['.'] (w.segments.map Segment.name)

/-- A character that is neither blank nor one of the symbols of written types and binary names. -/
def isNameChar (c : Char) : Bool := ['.', '$', '<', '>', '[', ']'].all (c != ·) && !isBlank c

/-- A part of a binary name that source text can write. -/
def IsNamePart (part : List Char) : Prop := part ≠ [] ∧ part.all isNameChar = true

instance : DecidablePred IsNamePart := fun _ => inferInstanceAs (Decidable (_ ∧ _))

/-- A character of names in written types: there a dollar sign is one as well. -/
def isTypeNameChar (c : Char) : Bool := ['.', '<', '>', '[', ']'].all (c != ·) && !isBlank c

/-- A segment of the name of a written type. -/
def IsTypeName (part : List Char) : Prop := part ≠ [] ∧ part.all isTypeNameChar = true

instance : DecidablePred IsTypeName := fun _ => inferInstanceAs (Decidable (_ ∧ _))

theorem IsNamePart.isTypeName {part : List Char} (h : IsNamePart part) : IsTypeName part := by
  refine ⟨h.1, List.all_eq_true.2 fun c hc => ?_⟩
  have hchar := List.all_eq_true.1 h.2 c hc
  simp only [isNameChar, List.all_cons, Bool.and_eq_true] at hchar
  simp only [isTypeNameChar, List.all_cons, Bool.and_eq_true]
  tauto

theorem IsTypeName.ne_of_mem {part : List Char} (h : IsTypeName part) {c : Char} (hc : c ∈ part)
    {symbol : Char} (hsymbol : isTypeNameChar symbol = false) : c ≠ symbol := by
  rintro rfl
  have hchar := List.all_eq_true.1 h.2 c hc
  rw [hsymbol] at hchar
  cases hchar

theorem IsTypeName.isKept {part : List Char} (h : IsTypeName part) :
    ∀ c ∈ part, Erasure.IsKept c := by
  intro c hc
  have hchar := List.all_eq_true.1 h.2 c hc
  rw [isTypeNameChar, Bool.and_eq_true, Bool.not_eq_true'] at hchar
  exact ⟨h.ne_of_mem hc (by decide), h.ne_of_mem hc (by decide), hchar.2⟩

namespace JavaType

/-- The type without its dimensions. -/
def elementType : JavaType → JavaType
  | array element _ => element
  | t => t

def dimensionCount : JavaType → Nat
  | array _ n => n.toNat
  | _ => 0

/-- The segments of the name as source text writes it in full. -/
def segments (t : JavaType) : List (List Char) := splitAt (· == '.') t.canonicalName.toList

/-- A primitive type, or a reference type whose binary name has parts that source text can write. -/
inductive HasName : JavaType → Prop where
  | primitive (p : Primitive) : HasName (.primitive p)
  | reference {name : String} :
      (∀ part ∈ splitAt isNameDivisor name.toList, IsNamePart part) → HasName (.reference name)

theorem simpleName_eq (t : JavaType) :
    t.simpleName = t.elementType.simpleName ++ brackets t.dimensionCount := by
  cases t with
  | array element n => rfl
  | _ => exact (String.append_empty).symm

theorem isNamePart_keyword (p : Primitive) : IsNamePart p.keyword.toList := by
  cases p <;> decide

theorem segments_primitive (p : Primitive) : (primitive p).segments = [p.keyword.toList] := by
  refine splitAt_of_free fun c hc => ?_
  rw [beq_eq_false_iff_ne]
  exact (isNamePart_keyword p).isTypeName.ne_of_mem hc (by decide)

/-- The parts of a binary name are the segments of the name in source text. -/
theorem segments_reference (name : String) :
    (reference name).segments = splitAt isNameDivisor name.toList := by
  rw [segments, canonicalName, canonicalNameOf, String.toList_ofList, replaceChar]
  refine splitAt_map (fun c => ?_) (fun c hc => ?_) _
  · by_cases h : c = '$' <;> simp [isNameDivisor, h]
  · have hc' : c ≠ '$' := by rintro rfl; exact absurd hc (by decide)
    simp [hc']

theorem HasName.isNamePart {t : JavaType} (h : t.HasName) {part : List Char}
    (hpart : part ∈ t.segments) : IsNamePart part := by
  cases h with
  | primitive p =>
    rw [segments_primitive, List.mem_singleton] at hpart
    rw [hpart]
    exact isNamePart_keyword p
  | reference hparts =>
    rw [segments_reference] at hpart
    exact hparts part hpart

theorem HasName.getLast?_segments {t : JavaType} (h : t.HasName) :
    t.segments.getLast? = some t.simpleName.toList := by
  cases h with
  | primitive p => rw [segments_primitive]; rfl
  | reference _ =>
    rw [segments_reference, getLast?_splitAt, simpleName, simpleNameOf, String.toList_ofList]

end JavaType

/-- The declared type of the parameter is a spelling of the type: its segments are the last segments
of the type's name, at least one, and its dimensions are written at the type, behind the parameter's
name or as variable arity. -/
structure Spelling.Spells (w : Spelling) (p : Source.Parameter) (t : JavaType) : Prop where
  type_eq : p.type = String.ofList w.text
  segments_ne_nil : w.segments ≠ []
  segments_suffix : w.segments.map Segment.name <:+ t.elementType.segments
  dimensions_eq :
    w.dimensions.length + p.extraDimensions + (if p.isVarargs then 1 else 0) = t.dimensionCount

namespace Erasure

theorem strips_segment {s : Segment} (h : IsTypeName s.name) : Strips s.text s.name := by
  have hname := strips_kept h.isKept
  have harguments : Strips ((s.arguments.map TypeArguments.text).getD []) [] := by
    intro rest
    cases s.arguments with
    | none => rfl
    | some a =>
      have hgroup := stripArguments_group a.balanced 0 rest
      simpa [TypeArguments.text] using hgroup
  have htext := ((((strips_blank s.lead.blank).append hname).append
    (strips_blank s.gap.blank)).append harguments).append (strips_blank s.trail.blank)
  simpa [Segment.text] using htext

theorem strips_dimensions (ds : List Dimension) :
    Strips (ds.flatMap Dimension.text) (repeated ds.length ['[', ']']) := by
  induction ds with
  | nil => exact fun _ => rfl
  | cons d ds ih =>
    have hopen : Strips ['['] ['['] := strips_singleton (by decide)
    have hclose : Strips [']'] [']'] := strips_singleton (by decide)
    have hd := (((strips_blank d.lead.blank).append hopen).append
      (strips_blank d.gap.blank)).append hclose
    exact hd.append ih

theorem strips_text {w : Spelling} (h : ∀ s ∈ w.segments, IsTypeName s.name) :
    Strips w.text (w.qualifiedName ++ repeated w.dimensions.length ['[', ']']) := by
  have hsegments := strips_intercalate (s := '.') (by decide)
    fun s hs => strips_segment (h s hs)
  have htext := (hsegments.append (strips_dimensions w.dimensions)).append
    (strips_blank w.trail.blank)
  rwa [List.append_nil] at htext

section Head

variable {w : Spelling} {s : Segment}

theorem lastPiece_qualifiedName (h : ∀ s ∈ w.segments, IsTypeName s.name)
    (hlast : w.segments.getLast? = some s) : lastPiece (· == '.') w.qualifiedName = s.name := by
  have hne : w.segments.map Segment.name ≠ [] := by
    intro hnil
    rw [List.map_eq_nil_iff.1 hnil] at hlast
    cases hlast
  have hsplit : splitAt (· == '.') w.qualifiedName = w.segments.map Segment.name := by
    refine splitAt_intercalate rfl hne fun part hpart c hc => ?_
    obtain ⟨s, hs, rfl⟩ := List.mem_map.1 hpart
    rw [beq_eq_false_iff_ne]
    exact (h s hs).ne_of_mem hc (by decide)
  have hpiece := getLast?_splitAt (· == '.') w.qualifiedName
  rw [hsplit, List.getLast?_map, hlast] at hpiece
  exact (Option.some.inj hpiece).symm

/-- **The head of a written type** is its last segment, with the dimensions that are written at the type
and those that follow. -/
theorem headOf_text (h : ∀ s ∈ w.segments, IsTypeName s.name) (hlast : w.segments.getLast? = some s)
    (n : Nat) :
    headOf (String.ofList w.text ++ brackets n) =
      (String.ofList s.name, w.dimensions.length + n) := by
  have hname := h s (List.mem_of_getLast? hlast)
  have hpiece := lastPiece_qualifiedName h hlast
  have hstrip : stripArguments 0 (String.ofList w.text ++ brackets n).toList =
      w.qualifiedName ++ repeated (w.dimensions.length + n) ['[', ']'] := by
    have htext := (strips_text h).append (strips_brackets n) []
    rw [List.append_nil, stripArguments, List.append_nil] at htext
    rw [brackets, String.toList_append, String.toList_ofList, String.toList_ofList, htext,
      List.append_assoc, ← repeated_add]
  -- the name does not end in a bracket, so no bracket of it is taken for a dimension
  have hbracket : w.qualifiedName.getLast? ≠ some ']' := by
    rw [getLast?_eq_getLast?_lastPiece (hpiece ▸ hname.1), hpiece]
    intro hmem
    exact hname.ne_of_mem (List.mem_of_getLast? hmem) (by decide) rfl
  rw [headOf, hstrip, splitDimensions_append _ hbracket]
  simp only [hpiece]

end Head

/-- The head of a spelling is the simple name of the element, with all the dimensions, wherever they
were written. -/
theorem headOf_fullType {w : Spelling} {p : Source.Parameter} {t : JavaType}
    (hname : t.elementType.HasName) (hw : w.Spells p t) :
    headOf p.fullType = (t.elementType.simpleName, t.dimensionCount) := by
  have hnames : ∀ s ∈ w.segments, IsTypeName s.name := fun s hs =>
    (hname.isNamePart (hw.segments_suffix.subset (List.mem_map_of_mem hs))).isTypeName
  obtain ⟨s, hs⟩ : ∃ s, w.segments.getLast? = some s :=
    ⟨_, List.getLast?_eq_some_getLast hw.segments_ne_nil⟩
  -- a suffix of the segments that is not empty ends in the last of them
  have hsimple : s.name = t.elementType.simpleName.toList := by
    obtain ⟨qualifiers, hsegments⟩ := hw.segments_suffix
    have hlast := hname.getLast?_segments
    rw [← hsegments, List.getLast?_append_of_ne_nil _ (by simpa using hw.segments_ne_nil),
      List.getLast?_map, hs] at hlast
    exact Option.some.inj hlast
  rw [Source.Parameter.fullType, hw.type_eq, headOf_text hnames hs, hsimple, String.ofList_toList,
    ← Nat.add_assoc, hw.dimensions_eq]

/-- A name that no type parameter has is not replaced, however many steps are left. -/
theorem eraseWithin_of_forall_ne {parameters : List TypeParameter} {written : String}
    (h : ∀ v ∈ parameters, v.name ≠ (headOf written).1) (steps : Nat) :
    eraseWithin parameters steps written = (headOf written).1 ++ brackets (headOf written).2 := by
  have hfind : parameters.find? (·.name == (headOf written).1) = none := by
    rw [List.find?_eq_none]
    intro v hv
    simpa using h v hv
  cases steps with
  | zero => rfl
  | succ steps => simp only [eraseWithin, hfind]

/-- **The two erasures agree.** Every spelling of a type erases to the simple name that the compiled
type has, as long as no type parameter in scope has the name of the type's last segment. -/
theorem erase_fullType_of_spells {w : Spelling} {p : Source.Parameter} {t : JavaType}
    {parameters : List TypeParameter} (hname : t.elementType.HasName) (hw : w.Spells p t)
    (hfresh : ∀ v ∈ parameters, t.elementType.segments.getLast? ≠ some v.name.toList) :
    erase parameters p.fullType = t.simpleName := by
  have hhead := headOf_fullType hname hw
  have hne : ∀ v ∈ parameters, v.name ≠ (headOf p.fullType).1 := by
    intro v hv heq
    rw [hhead] at heq
    exact hfresh v hv (heq ▸ hname.getLast?_segments)
  rw [erase, eraseWithin_of_forall_ne hne, hhead, JavaType.simpleName_eq t]

/-- `Map < K<V> > . Entry [ ]`. -/
def entrySpelling : Spelling where
  segments :=
    [{ name := ['M', 'a', 'p'], gap := ⟨[' '], by decide⟩,
       arguments := some
         ⟨' ' :: 'K' :: '<' :: (['V'] ++ '>' :: [' ']),
          .cons (by decide) (by decide) <| .cons (by decide) (by decide) <|
            .group (.cons (by decide) (by decide) .nil) (.cons (by decide) (by decide) .nil)⟩,
       trail := ⟨[' '], by decide⟩ },
     { lead := ⟨[' '], by decide⟩, name := ['E', 'n', 't', 'r', 'y'] }]
  dimensions := [{ lead := ⟨[' '], by decide⟩, gap := ⟨[' '], by decide⟩ }]

/-- `Map < K<V> > . Entry [ ]... entries[]`. -/
def entryParameter : Source.Parameter where
  type := "Map < K<V> > . Entry [ ]"
  name := "entries"
  annotations := []
  isVarargs := true
  extraDimensions := 1

def entryArray : JavaType := .array (.reference "java.util.Map$Entry") 3

theorem erase_fullType_of_spells_entry :
    entrySpelling.Spells entryParameter entryArray ∧
      erase [⟨"K", ["Map"]⟩, ⟨"V", []⟩] entryParameter.fullType = entryArray.simpleName := by
  have hname : entryArray.elementType.HasName := .reference (by decide +kernel)
  have hw : entrySpelling.Spells entryParameter entryArray := by
    refine ⟨by decide +kernel, by simp [entrySpelling], ?_, by decide⟩
    exact ⟨["java".toList, "util".toList], by decide +kernel⟩
  exact ⟨hw, erase_fullType_of_spells hname hw (by decide +kernel)⟩

end Erasure

end MemberSpec
