import Mathlib
import MemberSpec.Toml.Reader
import MemberSpec.Proofs.Pieces
import MemberSpec.Proofs.Toml.Strings

/-!
# Values in TOML are read back

A number, a boolean or a string is read up to the character that follows it, and the reader does not look
further than that. An array has its items on a line, or each on a line of its own, so the blanks and line
breaks between them are skipped.

* `Simple.value?_eq`: numbers, booleans and strings are read back from their texts.
* `Writable.value?_eq`: so are arrays of them.
-/

namespace MemberSpec.Toml

open Text

/-! ## Numbers -/

theorem isDigit_of_mem {n : Nat} {c : Char} (h : c ∈ Nat.toDigits 10 n) : isDigit c = true := by
  have hc := Nat.isDigit_of_mem_toDigits (by omega) (by omega) h
  rwa [Char.isDigit] at hc

theorem numberOf_toDigits (n : Nat) : numberOf 10 (Nat.toDigits 10 n) = n := by
  have hfold : ∀ (ds : List Char) (start : Nat), (∀ c ∈ ds, isDigit c = true) →
      ds.foldl (fun n c => n * 10 + digitValue c) start = Nat.ofDigitChars 10 ds start := by
    intro ds
    induction ds with
    | nil => intro start _; rfl
    | cons c ds ih =>
      intro start h
      have hc : digitValue c = c.toNat - '0'.toNat := if_pos (h c List.mem_cons_self)
      rw [List.foldl_cons, Nat.ofDigitChars_cons, hc, Nat.mul_comm,
        ih _ fun c hc => h c (List.mem_cons_of_mem _ hc)]
  rw [numberOf, hfold _ _ fun c hc => isDigit_of_mem hc, Nat.ofDigitChars_ten_toDigits]

/-- The digits of a number other than zero do not start with a zero. -/
theorem head?_toDigits_ne {n : Nat} (hn : 0 < n) : (Nat.toDigits 10 n).head? ≠ some '0' := by
  induction n using Nat.strong_induction_on with
  | _ n ih =>
    rw [Nat.toDigits_eq_if (by omega)]
    split
    · rename_i hsmall
      interval_cases n <;> decide
    · rw [List.head?_append_of_ne_nil _ Nat.toDigits_ne_nil]
      exact ih (n / 10) (by omega) (by omega)

theorem wholeDigits?_toDigits (n : Nat) :
    wholeDigits? (Nat.toDigits 10 n) = some (Nat.toDigits 10 n) := by
  have hfree : ∀ c ∈ Nat.toDigits 10 n, (c == '_') = false := by
    intro c hc
    rw [beq_eq_false_iff_ne]
    rintro rfl
    exact absurd (isDigit_of_mem hc) (by decide)
  have hgroups : ungroup? isDigit (Nat.toDigits 10 n) = some (Nat.toDigits 10 n) := by
    have hall : ((Nat.toDigits 10 n).all isDigit) = true :=
      List.all_eq_true.2 fun c hc => isDigit_of_mem hc
    rw [ungroup?, splitAt_of_free hfree]
    simp [Nat.toDigits_ne_nil, hall]
  have hstart : ((Nat.toDigits 10 n).length == 1 || (Nat.toDigits 10 n).head? != some '0') = true := by
    rcases Nat.eq_zero_or_pos n with rfl | hn
    · rfl
    · simp [head?_toDigits_ne hn]
  rw [wholeDigits?, hgroups]
  simp only [Option.bind_eq_bind, Option.bind_some, guard, hstart, if_true]
  rfl

/-- A number between the bounds of what can be written and read. -/
def InRange (n : Int) : Prop := -0x8000000000000000 ≤ n ∧ n ≤ greatest

theorem inRange?_eq {n : Int} (h : InRange n) : inRange? n = some n := by
  obtain ⟨hlow, hhigh⟩ := h
  have hhigh' : n < 0x8000000000000000 := by
    unfold greatest at hhigh
    omega
  simp [inRange?, hlow, hhigh']

/-- The digits of a number, with a sign if it is negative. -/
theorem toList_toString (n : Int) :
    (toString n).toList = (if n < 0 then ['-'] else []) ++ Nat.toDigits 10 n.natAbs := by
  cases n with
  | ofNat m =>
    have htext : toString (Int.ofNat m) = m.repr := rfl
    rw [htext, Nat.toList_repr, if_neg (by simp)]
    rfl
  | negSucc m =>
    have htext : toString (Int.negSucc m) = "-" ++ (m + 1).repr := rfl
    rw [htext, String.toList_append, Nat.toList_repr, if_pos (Int.negSucc_lt_zero m)]
    rfl

theorem integer?_of_digits {cs : List Char} (h : ∀ c ∈ cs, isDigit c = true) :
    integer? cs = (wholeDigits? cs).bind fun ds => inRange? (numberOf 10 ds) := by
  have hsecond : ∀ c d rest, cs = c :: d :: rest → isDigit d = true := by
    rintro c d rest rfl
    exact h d (by simp)
  have hsign : splitSign cs = (false, cs) := by
    unfold splitSign
    split
    · exact absurd (h '-' List.mem_cons_self) (by decide)
    · exact absurd (h '+' List.mem_cons_self) (by decide)
    · rfl
  unfold integer?
  split
  · exact absurd (hsecond _ _ _ rfl) (by decide)
  · exact absurd (hsecond _ _ _ rfl) (by decide)
  · exact absurd (hsecond _ _ _ rfl) (by decide)
  · rw [hsign]
    rfl

/-- **Numbers are read back.** -/
theorem integer?_toString {n : Int} (h : InRange n) : integer? (toString n).toList = some n := by
  rw [toList_toString]
  split
  · rename_i hneg
    have habs : -((n.natAbs : Nat) : Int) = n := by omega
    change ((wholeDigits? (Nat.toDigits 10 n.natAbs)).bind fun ds =>
      inRange? (-((numberOf 10 ds : Nat) : Int))) = some n
    rw [wholeDigits?_toDigits, Option.bind_some, numberOf_toDigits, habs, inRange?_eq h]
  · rename_i hneg
    have habs : ((n.natAbs : Nat) : Int) = n := by omega
    rw [List.nil_append, integer?_of_digits fun c hc => isDigit_of_mem hc, wholeDigits?_toDigits,
      Option.bind_some, numberOf_toDigits, habs, inRange?_eq h]

/-! ## What stands around a value -/

/-- Text that starts with neither a blank nor a comment nor a line break. -/
def Solid (cs : List Char) : Prop :=
  ∃ c more, cs = c :: more ∧ isWhite c = false ∧ c ≠ '#' ∧ c ≠ '\n' ∧ c ≠ '\r'

/-- What can follow a written value: a comma, a bracket or the end of the line. -/
def Follows (cs : List Char) : Prop := ∃ c more, cs = c :: more ∧ (c = ',' ∨ c = ']' ∨ c = '\n')

section Around

variable {cs : List Char}

theorem Solid.append (h : Solid cs) (more : List Char) : Solid (cs ++ more) := by
  obtain ⟨c, rest, rfl, hc⟩ := h
  exact ⟨c, rest ++ more, rfl, hc⟩

theorem Solid.skipWhite_eq (h : Solid cs) : skipWhite cs = cs := by
  obtain ⟨c, more, rfl, hwhite, -⟩ := h
  exact List.dropWhile_cons_of_neg (by simp [hwhite])

theorem Solid.skipComment_eq (h : Solid cs) : skipComment cs = cs := by
  obtain ⟨c, more, rfl, -, hcomment, -⟩ := h
  unfold skipComment
  split
  · rename_i heq
    cases heq
    exact absurd rfl hcomment
  · rfl

theorem Solid.lineBreak?_eq (h : Solid cs) : lineBreak? cs = none := by
  obtain ⟨c, more, rfl, -, -, hline, hreturn⟩ := h
  unfold lineBreak?
  split
  · rename_i heq
    cases heq
    exact absurd rfl hline
  · rename_i heq
    cases heq
    exact absurd rfl hreturn
  · rfl

/-- Blanks before text that is solid are skipped, and nothing else. -/
theorem Solid.skipLines_blanks (h : Solid cs) (blanks : List Char)
    (hblanks : ∀ c ∈ blanks, isWhite c = true) (fuel : Nat) :
    skipLines (fuel + 1) (blanks ++ cs) = cs := by
  have hskip : skipWhite (blanks ++ cs) = cs := by
    rw [skipWhite, List.dropWhile_append_of_pos hblanks]
    exact h.skipWhite_eq
  rw [skipLines, hskip, h.skipComment_eq, h.lineBreak?_eq]

theorem Solid.skipLines_eq (h : Solid cs) (fuel : Nat) : skipLines fuel cs = cs := by
  cases fuel with
  | zero => rfl
  | succ fuel => exact h.skipLines_blanks [] (by simp) fuel

theorem skipLines_lineFeed (fuel : Nat) (cs : List Char) :
    skipLines (fuel + 1) ('\n' :: cs) = skipLines fuel cs := rfl

theorem solid_comma (cs : List Char) : Solid (',' :: cs) :=
  ⟨_, _, rfl, by decide, by decide, by decide, by decide⟩

theorem solid_bracket (cs : List Char) : Solid (']' :: cs) :=
  ⟨_, _, rfl, by decide, by decide, by decide, by decide⟩

theorem Follows.head?_ne (h : Follows cs) {c : Char} (hc : c ≠ ',' ∧ c ≠ ']' ∧ c ≠ '\n') :
    cs.head? ≠ some c := by
  obtain ⟨d, more, rfl, hd⟩ := h
  rw [List.head?_cons, Ne, Option.some_inj]
  rintro rfl
  tauto

end Around

/-! ## Single values -/

/-- A number, a boolean or a string. -/
inductive Simple : Value → Prop where
  | string (s : String) : Simple (.string s)
  | integer {n : Int} : InRange n → Simple (.integer n)
  | boolean (b : Bool) : Simple (.boolean b)

/-- A simple value, or an array of simple values. -/
inductive Writable : Value → Prop where
  | simple {v : Value} : Simple v → Writable v
  | array {items : List Value} : (∀ v ∈ items, Simple v) → Writable (.array items)

/-- Text that is read as a value wherever one can stand, with a first character that no reader takes for
something else. -/
structure Reads (text : List Char) (v : Value) : Prop where
  solid : Solid text
  head?_ne : text.head? ≠ some ']'
  value?_eq : ∀ fuel depth rest, Follows rest → value? (fuel + 1) depth (text ++ rest) = some (v, rest)

theorem Reads.head?_append_ne {text : List Char} {v : Value} (h : Reads text v) (more : List Char) :
    (text ++ more).head? ≠ some ']' := by
  obtain ⟨c, rest, htext, -⟩ := h.solid
  have hne := h.head?_ne
  rw [htext] at hne ⊢
  exact hne

/-- A scalar is read up to the character that ends it. -/
theorem readScalar?_append {word rest : List Char} (hword : word.any endsScalar = false)
    (hrest : Follows rest) : readScalar? (word ++ rest) = (scalar? word).map fun v => (v, rest) := by
  obtain ⟨c, more, rfl, hc⟩ := hrest
  have hend : endsScalar c = true := by
    rcases hc with rfl | rfl | rfl <;> decide
  have hspace : c ≠ ' ' := by
    rcases hc with rfl | rfl | rfl <;> decide
  have hkept : ∀ d ∈ word, (!endsScalar d) = true := by
    intro d hd
    simpa using List.any_eq_false.1 hword d hd
  have htake : (word ++ c :: more).takeWhile (!endsScalar ·) = word := by
    rw [List.takeWhile_append_of_pos hkept, List.takeWhile_cons_of_neg (by simp [hend]),
      List.append_nil]
  unfold readScalar?
  simp only [htake, List.drop_left]
  split
  · rename_i heq
    cases heq
    exact absurd rfl hspace
  · rfl

theorem value?_of_scalar {c : Char} (hc : c ≠ '[' ∧ c ≠ '\x7b' ∧ c ≠ '"' ∧ c ≠ '\'') (fuel depth : Nat)
    (cs : List Char) : value? (fuel + 1) depth (c :: cs) = readScalar? (c :: cs) := by
  unfold value?
  split
  · rename_i heq
    cases heq
    exact absurd rfl hc.1
  · rename_i heq
    cases heq
    exact absurd rfl hc.2.1
  · rename_i heq
    cases heq
    exact absurd rfl hc.2.2.1
  · rename_i heq
    cases heq
    exact absurd rfl hc.2.2.2
  · rfl

/-- A word of which no character ends a scalar or starts another value. -/
theorem reads_word {c : Char} {cs : List Char} {v : Value}
    (hstart : c ≠ '[' ∧ c ≠ '\x7b' ∧ c ≠ '"' ∧ c ≠ '\'') (hword : (c :: cs).any endsScalar = false)
    (hscalar : scalar? (c :: cs) = some v) : Reads (c :: cs) v := by
  have hc := List.any_eq_false.1 hword c List.mem_cons_self
  simp only [endsScalar, Bool.not_eq_true, Bool.or_eq_false_iff, beq_eq_false_iff_ne] at hc
  obtain ⟨⟨⟨⟨⟨⟨hwhite, hline⟩, hreturn⟩, -⟩, hbracket⟩, -⟩, hcomment⟩ := hc
  refine ⟨⟨c, cs, rfl, hwhite, hcomment, hline, hreturn⟩, by simpa using hbracket, ?_⟩
  intro fuel depth rest hrest
  rw [List.cons_append, value?_of_scalar hstart, ← List.cons_append, readScalar?_append hword hrest,
    hscalar]
  rfl

theorem stringText_cases (s : String) :
    (∃ cs, (stringText s).toList = '"' :: cs) ∨ ∃ cs, (stringText s).toList = '\'' :: cs := by
  rw [stringText, String.toList_ofList]
  split_ifs
  · exact .inl ⟨_, rfl⟩
  · exact .inr ⟨_, rfl⟩
  · exact .inl ⟨_, rfl⟩
  · exact .inr ⟨_, rfl⟩
  · exact .inl ⟨_, rfl⟩
  · exact .inl ⟨_, rfl⟩

theorem reads_string (s : String) : Reads (stringText s).toList (.string s) := by
  have hread : ∀ rest, Follows rest →
      string? ((stringText s).toList ++ rest) = some (s, rest) := fun rest hrest =>
    string?_stringText s (hrest.head?_ne (by decide)) (hrest.head?_ne (by decide))
  rcases stringText_cases s with ⟨cs, hcs⟩ | ⟨cs, hcs⟩
  · rw [hcs] at hread ⊢
    refine ⟨⟨_, _, rfl, by decide, by decide, by decide, by decide⟩, by simp, ?_⟩
    intro fuel depth rest hrest
    have := hread rest hrest
    rw [List.cons_append] at this ⊢
    rw [value?, this]
    rfl
  · rw [hcs] at hread ⊢
    refine ⟨⟨_, _, rfl, by decide, by decide, by decide, by decide⟩, by simp, ?_⟩
    intro fuel depth rest hrest
    have := hread rest hrest
    rw [List.cons_append] at this ⊢
    rw [value?, this]
    rfl

theorem reads_integer {n : Int} (h : InRange n) : Reads (toString n).toList (.integer n) := by
  have hchar : ∀ c ∈ (toString n).toList, c = '-' ∨ isDigit c = true := by
    intro c hc
    rw [toList_toString, List.mem_append] at hc
    rcases hc with hc | hc
    · split at hc
      · exact .inl (List.mem_singleton.1 hc)
      · cases hc
    · exact .inr (isDigit_of_mem hc)
  have hall : ∀ m < 128, Char.ofNat m = '-' ∨ isDigit (Char.ofNat m) = true →
      endsScalar (Char.ofNat m) = false ∧
        Char.ofNat m ∉ ['[', '\x7b', '"', '\'', 't', 'f'] := by
    decide +kernel
  have hsafe : ∀ c ∈ (toString n).toList,
      endsScalar c = false ∧ c ∉ ['[', '\x7b', '"', '\'', 't', 'f'] := by
    intro c hc
    have hsmall : c.toNat < 128 := by
      rcases hchar c hc with rfl | hdigit
      · decide
      · simp only [isDigit, Bool.and_eq_true, decide_eq_true_eq] at hdigit
        exact Nat.lt_of_le_of_lt hdigit.2 (by decide)
    have := hall c.toNat hsmall
    rw [Char.ofNat_toNat] at this
    exact this (hchar c hc)
  have hread := integer?_toString h
  have hword : (toString n).toList.any endsScalar = false :=
    List.any_eq_false.2 fun c hc => by simp [(hsafe c hc).1]
  cases htext : (toString n).toList with
  | nil =>
    rw [htext] at hread
    cases hread
  | cons c cs =>
    rw [htext] at hread hword hsafe
    have hc := (hsafe c List.mem_cons_self).2
    simp only [List.mem_cons, List.not_mem_nil, or_false, not_or] at hc
    obtain ⟨hbracket, hbrace, hdouble, hsingle, ht, hf⟩ := hc
    refine reads_word ⟨hbracket, hbrace, hdouble, hsingle⟩ hword ?_
    rw [scalar?, if_neg (by simp [ht]), if_neg (by simp [hf]), hread]

theorem reads_boolean (b : Bool) :
    Reads (if b then "true" else "false").toList (.boolean b) := by
  cases b
  · exact reads_word (c := 'f') (by decide) (by decide) rfl
  · exact reads_word (c := 't') (by decide) (by decide) rfl

/-- **Single values are read back.** -/
theorem Simple.value?_eq {v : Value} (h : Simple v) :
    ∃ text, valueText? v = some text ∧ Reads text.toList v := by
  cases h with
  | string s => exact ⟨_, rfl, reads_string s⟩
  | integer hn => exact ⟨_, if_pos hn.2, reads_integer hn⟩
  | boolean b => exact ⟨_, rfl, reads_boolean b⟩

/-! ## Arrays -/

/-- Items on lines of their own, from behind the opening bracket up to the closing one. -/
def rows : List String → List Char
  | [] => ['\n']
  | text :: texts => '\n' :: (List.replicate 4 ' ' ++ (text.toList ++ ',' :: rows texts))

theorem toList_rows (texts : List String) :
    '\n' :: (String.join (texts.map fun text => "    " ++ text ++ ",\n")).toList = rows texts := by
  induction texts with
  | nil => rfl
  | cons text texts ih =>
    rw [List.map_cons, String.join_cons, rows, ← ih]
    simp

section Items

variable {texts : List String} {items : List Value} {fuel depth : Nat} {cs start : List Char}

theorem items?_close {rest : List Char} (h : skipLines cs.length cs = ']' :: rest) :
    items? (fuel + 1) depth cs = some ([], rest) := by
  rw [items?, h]
  rfl

theorem items?_step (h : skipLines cs.length cs = start) (hstart : start.head? ≠ some ']') :
    items? (fuel + 1) depth cs = (do
      let (v, rest) ← value? fuel depth start
      match skipLines rest.length rest with
      | ',' :: more =>
        let (vs, rest) ← items? fuel depth more
        return (v :: vs, rest)
      | ']' :: more => return ([v], more)
      | _ => none) := by
  rw [items?, h]
  split
  · simp at hstart
  · rfl

/-- Items on lines of their own are read one after the other. -/
theorem items?_rows (h : List.Forall₂ (fun text v => Reads text.toList v) texts items)
    (rest : List Char) (hfuel : items.length < fuel) :
    items? fuel depth (rows texts ++ ']' :: rest) = some (items, rest) := by
  induction h generalizing fuel with
  | nil =>
    obtain ⟨fuel, rfl⟩ : ∃ n, fuel = n + 1 := ⟨fuel - 1, by simp at hfuel; omega⟩
    exact items?_close ((solid_bracket rest).skipLines_eq _)
  | @cons text v texts items hread _ ih =>
    obtain ⟨fuel, rfl⟩ : ∃ n, fuel = n + 2 := ⟨fuel - 2, by simp at hfuel; omega⟩
    set tail := rows texts ++ ']' :: rest with htail
    have hcs : rows (text :: texts) ++ ']' :: rest =
        '\n' :: (List.replicate 4 ' ' ++ (text.toList ++ ',' :: tail)) := by
      simp [rows, htail]
    have hskip : skipLines (rows (text :: texts) ++ ']' :: rest).length
        (rows (text :: texts) ++ ']' :: rest) = text.toList ++ ',' :: tail := by
      rw [hcs, List.length_cons, skipLines_lineFeed, List.length_append, List.length_replicate,
        Nat.add_comm]
      exact (hread.solid.append _).skipLines_blanks _ (by simp [isWhite]) _
    have hrest : items? (fuel + 1) depth tail = some (items, rest) :=
      ih (by rw [List.length_cons] at hfuel; omega)
    rw [items?_step hskip (hread.head?_append_ne _), hread.value?_eq _ _ _ ⟨_, _, rfl, .inl rfl⟩]
    simp only [Option.bind_eq_bind, Option.bind_some, (solid_comma tail).skipLines_eq, hrest]
    rfl

theorem length_lt_rows (texts : List String) : texts.length < (rows texts).length := by
  induction texts with
  | nil => decide
  | cons text texts ih =>
    rw [rows]
    simp only [List.length_cons, List.length_append]
    omega

/-- The items of an array are read, however many there are. -/
theorem items?_arrayText (h : List.Forall₂ (fun text v => Reads text.toList v) texts items) :
    ∃ inner, (arrayText texts).toList = '[' :: inner ∧ items.length < inner.length ∧
      ∀ fuel depth rest, items.length + 1 < fuel →
        items? fuel depth (inner ++ rest) = some (items, rest) := by
  cases h with
  | nil =>
    refine ⟨[']'], rfl, by decide, fun fuel depth rest hfuel => ?_⟩
    obtain ⟨fuel, rfl⟩ : ∃ n, fuel = n + 1 := ⟨fuel - 1, by omega⟩
    exact items?_close ((solid_bracket rest).skipLines_eq _)
  | @cons text v texts items hread hrest =>
    cases hrest with
    | nil =>
      have hlength : 0 < text.toList.length := by
        obtain ⟨c, more, htext, -⟩ := hread.solid
        rw [htext]
        exact Nat.succ_pos _
      refine ⟨text.toList ++ [']'], by simp [arrayText], by simpa using hlength, ?_⟩
      intro fuel depth rest hfuel
      obtain ⟨fuel, rfl⟩ : ∃ n, fuel = n + 2 := ⟨fuel - 2, by omega⟩
      rw [List.append_assoc, List.singleton_append,
        items?_step ((hread.solid.append _).skipLines_eq _) (hread.head?_append_ne _),
        hread.value?_eq _ _ _ ⟨_, _, rfl, .inr (.inl rfl)⟩]
      simp only [Option.bind_eq_bind, Option.bind_some, (solid_bracket rest).skipLines_eq]
      rfl
    | @cons text' v' texts items hread' hrest =>
      have hreads : List.Forall₂ (fun text v => Reads (String.toList text) v)
          (text :: text' :: texts) (v :: v' :: items) := .cons hread (.cons hread' hrest)
      have hlength := length_lt_rows (text :: text' :: texts)
      refine ⟨rows (text :: text' :: texts) ++ [']'], ?_, ?_, fun fuel depth rest hfuel => ?_⟩
      · rw [← toList_rows]
        simp [arrayText]
      · rw [hreads.length_eq] at hlength
        rw [List.length_append]
        omega
      · rw [List.append_assoc, List.singleton_append]
        exact items?_rows hreads rest (by omega)

end Items

theorem itemTexts?_eq {items : List Value} (h : ∀ v ∈ items, Simple v) :
    ∃ texts, itemTexts? items = some texts ∧
      List.Forall₂ (fun text v => Reads text.toList v) texts items := by
  induction items with
  | nil => exact ⟨[], rfl, .nil⟩
  | cons v items ih =>
    obtain ⟨texts, htexts, hreads⟩ := ih fun v hv => h v (List.mem_cons_of_mem _ hv)
    obtain ⟨text, htext, hread⟩ := (h v List.mem_cons_self).value?_eq
    refine ⟨text :: texts, ?_, .cons hread hreads⟩
    rw [itemTexts?, htext, htexts]
    rfl

/-- **Values are read back**, if there is fuel for their text. -/
theorem Writable.value?_eq {v : Value} (h : Writable v) :
    ∃ text, valueText? v = some text ∧ Solid text.toList ∧
      ∀ fuel depth rest, text.toList.length < fuel → Follows rest →
        value? fuel (depth + 1) (text.toList ++ rest) = some (v, rest) := by
  cases h with
  | simple hv =>
    obtain ⟨text, htext, hread⟩ := hv.value?_eq
    refine ⟨text, htext, hread.solid, fun fuel depth rest hfuel hrest => ?_⟩
    obtain ⟨fuel, rfl⟩ : ∃ n, fuel = n + 1 := ⟨fuel - 1, by omega⟩
    exact hread.value?_eq fuel _ rest hrest
  | @array items hitems =>
    obtain ⟨texts, htexts, hreads⟩ := itemTexts?_eq hitems
    obtain ⟨inner, hinner, hlength, hread⟩ := items?_arrayText hreads
    refine ⟨arrayText texts, by rw [valueText?, htexts]; rfl, ?_, fun fuel depth rest hfuel _ => ?_⟩
    · rw [hinner]
      exact ⟨_, _, rfl, by decide, by decide, by decide, by decide⟩
    · obtain ⟨fuel, rfl⟩ : ∃ n, fuel = n + 1 := ⟨fuel - 1, by omega⟩
      rw [hinner, List.length_cons] at hfuel
      rw [hinner, List.cons_append, value?, hread fuel _ rest (by omega)]
      rfl

end MemberSpec.Toml
