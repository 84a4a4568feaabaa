import Mathlib
import MemberSpec.Toml.Quoting
import MemberSpec.Toml.Writer

/-!
# Strings in TOML are read back

Four forms are written, and the reader takes the form from the opening quotes. On one line the first
quote that is not part of an escape ends a string. On several lines it takes three quotes in a row, and
up to two more in front of them belong to the content, so what counts is how many quotes stand directly
before a place. `OnLines quote run text content` says that a text stands for a content there, where
`run` quotes precede it.

* `OnLines.block_eq`: what stands for a content is read as that content.
* `string?_stringText`: every string is read back from its text.
-/

namespace MemberSpec.Toml

open Text

/-! ## Escapes -/

/-- The text behind a backslash stands for a character, and the backslash does not end a line. -/
structure Escapes (e : List Char) (c : Char) : Prop where
  escape?_eq : ∀ more, escape? (e ++ more) = some (c, more)
  continued?_eq : ∀ more, continued? (e ++ more) = none

theorem lineBreak?_cons {c : Char} (h : isPlain c = true) (cs : List Char) :
    lineBreak? (c :: cs) = none := by
  unfold lineBreak?
  split
  · rename_i heq
    cases heq
    exact absurd h (by decide)
  · rename_i heq
    cases heq
    exact absurd h (by decide)
  · rfl

theorem continued?_cons {c : Char} (h : isPlain c = true) (hspace : c ≠ ' ') (htab : c ≠ '\t')
    (cs : List Char) : continued? (c :: cs) = none := by
  rw [continued?, List.dropWhile_cons_of_neg (by simp [hspace, htab]), lineBreak?_cons h]
  rfl

theorem numericEscape_of_isControl {c : Char} (h : isControl c = true) :
    ∃ e, numericEscape c = '\\' :: e ∧ Escapes e c := by
  -- the control characters are few enough to go through
  have hall : ∀ n < 128, isControl (Char.ofNat n) = true →
      numericEscape (Char.ofNat n) = '\\' :: 'u' :: (numericEscape (Char.ofNat n)).drop 2 ∧
        ((numericEscape (Char.ofNat n)).drop 2).length = 4 ∧
        codePoint? ((numericEscape (Char.ofNat n)).drop 2) = some (Char.ofNat n) := by
    decide +kernel
  have hsmall : c.toNat < 128 := by
    simp only [isControl, Bool.or_eq_true, Bool.and_eq_true, decide_eq_true_eq, beq_iff_eq] at h
    omega
  obtain ⟨htext, hlength, hpoint⟩ := hall c.toNat hsmall (by rwa [Char.ofNat_toNat])
  rw [Char.ofNat_toNat] at htext hlength hpoint
  generalize (numericEscape c).drop 2 = digits at htext hlength hpoint
  refine ⟨_, htext, fun more => ?_, fun more => continued?_cons (by decide) (by decide) (by decide) _⟩
  change escape?.numeric 4 (digits ++ more) = _
  rw [escape?.numeric, if_neg (by rw [List.length_append]; omega), ← hlength, List.take_left,
    List.drop_left, hpoint]
  rfl

theorem escapes_quote : Escapes ['"'] '"' :=
  ⟨fun _ => rfl, fun _ => continued?_cons (by decide) (by decide) (by decide) _⟩

/-- A character that is not a control character stands for itself, unless it divides lines. -/
theorem isPlain_of_isControl_eq_false {c : Char} (h : isControl c = false) (hline : c ≠ '\n') :
    isPlain c = true := by
  simp only [isControl, Bool.or_eq_false_iff, Bool.and_eq_false_iff, bne_eq_false_iff_eq,
    decide_eq_false_iff_not, beq_eq_false_iff_ne] at h
  simp only [isPlain, Bool.or_eq_true, Bool.and_eq_true, beq_iff_eq, decide_eq_true_eq, bne_iff_ne]
  obtain ⟨(hlow | htab) | hline', hdelete⟩ := h
  · exact .inr ⟨by omega, hdelete⟩
  · exact .inl htab
  · exact absurd hline' hline

/-- A character other than a quote is escaped, or it stands for itself. -/
theorem escaped_cases (onLines : Bool) (c : Char) :
    (∃ e, escaped onLines c = '\\' :: e ∧ Escapes e c) ∨
      (escaped onLines c = [c] ∧ c ≠ '\\' ∧ (isPlain c = true ∨ onLines = true ∧ c = '\n')) := by
  have hshort : ∀ x d : Char, isPlain x = true → x ≠ ' ' → x ≠ '\t' →
      (∀ more, escape? (x :: more) = some (d, more)) → Escapes [x] d :=
    fun x d hplain hspace htab hread => ⟨hread, continued?_cons hplain hspace htab⟩
  unfold escaped
  split_ifs with hb ht hn hlines hf hr hs hc
  · rw [beq_iff_eq] at hb
    exact .inl ⟨_, rfl, hb ▸ hshort 'b' _ (by decide) (by decide) (by decide) fun _ => rfl⟩
  · rw [beq_iff_eq] at ht
    exact .inl ⟨_, rfl, ht ▸ hshort 't' _ (by decide) (by decide) (by decide) fun _ => rfl⟩
  · rw [beq_iff_eq] at hn
    exact .inr ⟨by rw [hn], by rw [hn]; decide, .inr ⟨hlines, hn⟩⟩
  · rw [beq_iff_eq] at hn
    exact .inl ⟨_, rfl, hn ▸ hshort 'n' _ (by decide) (by decide) (by decide) fun _ => rfl⟩
  · rw [beq_iff_eq] at hf
    exact .inl ⟨_, rfl, hf ▸ hshort 'f' _ (by decide) (by decide) (by decide) fun _ => rfl⟩
  · rw [beq_iff_eq] at hr
    exact .inl ⟨_, rfl, hr ▸ hshort 'r' _ (by decide) (by decide) (by decide) fun _ => rfl⟩
  · rw [beq_iff_eq] at hs
    exact .inl ⟨_, rfl, hs ▸ hshort '\\' _ (by decide) (by decide) (by decide) fun _ => rfl⟩
  · exact .inl (numericEscape_of_isControl hc)
  · rw [Bool.not_eq_true] at hc
    refine .inr ⟨rfl, by simpa using hs, .inl ?_⟩
    exact isPlain_of_isControl_eq_false hc (by simpa using hn)

/-! ## On one line -/

/-- **Between double quotes** every text is read back. -/
theorem basic_escapeAll (cs rest : List Char) {fuel : Nat} (hfuel : cs.length < fuel) :
    basic fuel (escapeAll false 0 0 cs ++ '"' :: rest) = some (cs, rest) := by
  induction cs generalizing fuel with
  | nil =>
    obtain ⟨fuel, rfl⟩ : ∃ n, fuel = n + 1 := ⟨fuel - 1, by simp at hfuel; omega⟩
    rfl
  | cons c cs ih =>
    obtain ⟨fuel, rfl⟩ : ∃ n, fuel = n + 1 := ⟨fuel - 1, by simp at hfuel; omega⟩
    have hrest : basic fuel (escapeAll false 0 0 cs ++ '"' :: rest) = some (cs, rest) :=
      ih (by simpa using hfuel)
    have hescaped : ∀ e, Escapes e c →
        basic (fuel + 1) ('\\' :: e ++ (escapeAll false 0 0 cs ++ '"' :: rest)) =
          some (c :: cs, rest) := by
      intro e he
      rw [List.cons_append, basic, if_neg (by decide), if_pos (by decide), he.escape?_eq]
      simp only [Option.bind_some, hrest]
      rfl
    by_cases hc : c = '"'
    · rw [hc] at hescaped ⊢
      rw [escapeAll, if_pos (by decide), if_neg (by decide), List.append_assoc]
      exact hescaped _ escapes_quote
    · rw [escapeAll, if_neg (by simpa using hc), List.append_assoc]
      rcases escaped_cases false c with ⟨e, he, hread⟩ | ⟨he, hbackslash, hplain⟩
      · rw [he]
        exact hescaped e hread
      · rw [he, List.singleton_append, basic, if_neg (by simpa using hc),
          if_neg (by simpa using hbackslash), if_pos (by simpa using hplain), hrest]
        rfl

/-- Between single quotes a text without them is read back. -/
theorem literal_append {cs : List Char} (hplain : ∀ c ∈ cs, isPlain c = true) (hquote : '\'' ∉ cs)
    (rest : List Char) : literal (cs ++ '\'' :: rest) = some (cs, rest) := by
  induction cs with
  | nil => rfl
  | cons c cs ih =>
    rw [List.mem_cons, not_or] at hquote
    rw [List.cons_append, literal, if_neg (by simpa using Ne.symm hquote.1),
      if_pos (hplain c List.mem_cons_self),
      ih (fun c hc => hplain c (List.mem_cons_of_mem _ hc)) hquote.2]
    rfl

/-! ## On several lines -/

/-- The text stands for the content on several lines, if `run` quotes precede it. -/
inductive OnLines (quote : Char) : Nat → List Char → List Char → Prop where
  | nil {run : Nat} : OnLines quote run [] []
  | char {run : Nat} {c : Char} {text content : List Char} :
      c ≠ quote → ¬ (c = '\\' ∧ quote = '"') → isPlain c = true ∨ c = '\n' →
      OnLines quote 0 text content → OnLines quote run (c :: text) (c :: content)
  | quote {run : Nat} {text content : List Char} : run < 2 →
      OnLines quote (run + 1) text content → OnLines quote run (quote :: text) (quote :: content)
  | escape {run : Nat} {e : List Char} {c : Char} {text content : List Char} :
      quote = '"' → Escapes e c → OnLines quote 0 text content →
      OnLines quote run ('\\' :: (e ++ text)) (c :: content)

section OnLines

variable {quote : Char} {run : Nat} {text content rest : List Char}

theorem OnLines.length_le (h : OnLines quote run text content) : content.length ≤ text.length := by
  induction h with
  | nil => exact le_rfl
  | char _ _ _ _ ih => simpa using ih
  | quote _ _ ih => simpa using ih
  | escape _ _ _ ih =>
    simp only [List.length_cons, List.length_append]
    omega

/-- How many quotes a text starts with: they are all of it, or something else follows them. With those
that precede it there are no more than two. -/
theorem OnLines.start (h : OnLines quote run text content) (hrun : run ≤ 2) :
    ∃ k, run + k ≤ 2 ∧
      ((text = List.replicate k quote ∧ content = List.replicate k quote) ∨
        ∃ c more, c ≠ quote ∧ text = List.replicate k quote ++ c :: more) := by
  induction h with
  | nil => exact ⟨0, hrun, .inl ⟨rfl, rfl⟩⟩
  | char hc _ _ _ _ => exact ⟨0, hrun, .inr ⟨_, _, hc, rfl⟩⟩
  | quote hlt _ ih =>
    obtain ⟨k, hk, ⟨rfl, rfl⟩ | ⟨c, more, hc, rfl⟩⟩ := ih hlt
    · exact ⟨k + 1, by omega, .inl ⟨List.replicate_succ.symm, List.replicate_succ.symm⟩⟩
    · exact ⟨k + 1, by omega, .inr ⟨c, more, hc, by rw [List.replicate_succ, List.cons_append]⟩⟩
  | escape hquote _ _ _ => exact ⟨0, hrun, .inr ⟨'\\', _, by rw [hquote]; decide, rfl⟩⟩

theorem takeWhile_replicate_append (quote : Char) (k : Nat) {more : List Char}
    (hmore : more.head? ≠ some quote) :
    (List.replicate k quote ++ more).takeWhile (· == quote) = List.replicate k quote := by
  rw [List.takeWhile_append_of_pos (by simp)]
  cases more with
  | nil => simp
  | cons c more => rw [List.takeWhile_cons_of_neg (by simpa using hmore), List.append_nil]

theorem closing?_replicate {k : Nat} (hk : k ≤ 2) (hrest : rest.head? ≠ some quote) :
    closing? quote (List.replicate (k + 3) quote ++ rest) = some (List.replicate k quote, rest) := by
  have hkept : min (k + 3 - 3) 2 = k := by omega
  rw [closing?, takeWhile_replicate_append quote _ hrest]
  simp only [List.length_replicate]
  rw [if_pos (by omega), hkept, List.drop_left' (List.length_replicate)]

theorem closing?_eq_none {k : Nat} (hk : k < 3) (more : List Char) (hmore : more.head? ≠ some quote) :
    closing? quote (List.replicate k quote ++ more) = none := by
  rw [closing?, takeWhile_replicate_append quote _ hmore]
  simp only [List.length_replicate]
  rw [if_neg (by omega)]

/-- **On several lines**, what stands for a content is read as that content, up to the quotes that
close it. -/
theorem OnLines.block_eq (h : OnLines quote run text content) (hrun : run ≤ 2)
    (hrest : rest.head? ≠ some quote) {fuel : Nat} (hfuel : content.length < fuel) :
    block quote fuel (text ++ (List.replicate 3 quote ++ rest)) = some (content, rest) := by
  induction h generalizing fuel with
  | nil =>
    obtain ⟨fuel, rfl⟩ : ∃ n, fuel = n + 1 := ⟨fuel - 1, by simp at hfuel; omega⟩
    have hclose := closing?_replicate (k := 0) (by omega) hrest
    rw [List.replicate_succ, List.cons_append] at hclose
    rw [List.nil_append, List.replicate_succ, List.cons_append, block, if_pos (by simp), hclose]
    rfl
  | @char run c text content hc hbackslash hplain _ ih =>
    obtain ⟨fuel, rfl⟩ : ∃ n, fuel = n + 1 := ⟨fuel - 1, by simp at hfuel; omega⟩
    have hmore : block quote fuel (text ++ (List.replicate 3 quote ++ rest)) = some (content, rest) :=
      ih (by omega) (by simpa using hfuel)
    rw [List.cons_append, block, if_neg (by simpa using hc)]
    rcases hplain with hplain | rfl
    · rw [lineBreak?_cons hplain]
      simp only
      rw [if_neg (by simpa using hbackslash), if_pos hplain, hmore]
      rfl
    · simp only [lineBreak?, hmore]
      rfl
  | @quote run text content hlt hlines ih =>
    obtain ⟨fuel, rfl⟩ : ∃ n, fuel = n + 1 := ⟨fuel - 1, by simp at hfuel; omega⟩
    have hmore : block quote fuel (text ++ (List.replicate 3 quote ++ rest)) = some (content, rest) :=
      ih (by omega) (by simpa using hfuel)
    rw [List.cons_append, block, if_pos (by simp)]
    obtain ⟨k, hk, ⟨htext, hcontent⟩ | ⟨c, more, hc, htext⟩⟩ := hlines.start (by omega)
    · -- only quotes are left: they end the content and close the string at once
      have hclose := closing?_replicate (k := k + 1) (by omega) hrest
      have hall : quote :: (text ++ (List.replicate 3 quote ++ rest)) =
          List.replicate (k + 1 + 3) quote ++ rest := by
        rw [htext, List.replicate_add (k + 1), List.replicate_succ (n := k)]
        simp
      rw [hall, hclose, hcontent, List.replicate_succ]
      rfl
    · have hopen := closing?_eq_none (k := k + 1) (by omega)
        (c :: more ++ (List.replicate 3 quote ++ rest)) (by simpa using hc)
      have hall : quote :: (text ++ (List.replicate 3 quote ++ rest)) =
          List.replicate (k + 1) quote ++ (c :: more ++ (List.replicate 3 quote ++ rest)) := by
        rw [htext, List.replicate_succ (n := k)]
        simp
      rw [hall, hopen, hmore]
      rfl
  | @escape run e c text content hquote he _ ih =>
    obtain ⟨fuel, rfl⟩ : ∃ n, fuel = n + 1 := ⟨fuel - 1, by simp at hfuel; omega⟩
    have hmore : block quote fuel (text ++ (List.replicate 3 quote ++ rest)) = some (content, rest) :=
      ih (by omega) (by simpa using hfuel)
    have hne : ('\\' == quote) = false := by rw [hquote]; decide
    rw [List.cons_append, List.append_assoc, block, hne, lineBreak?_cons (by decide)]
    simp only [Bool.false_eq_true, if_false]
    rw [if_pos (by rw [hquote]; decide), he.continued?_eq]
    simp only [he.escape?_eq, Option.bind_some, hmore]
    rfl

/-- What is escaped on several lines stands for the content, whatever it is. -/
theorem onLines_escapeAll (hrun : run ≤ 2) (cs : List Char) :
    OnLines '"' run (escapeAll true 2 run cs) cs := by
  induction cs generalizing run with
  | nil => exact .nil
  | cons c cs ih =>
    by_cases hc : c = '"'
    · rw [hc, escapeAll, if_pos (by decide)]
      split
      · rename_i hlt
        exact .quote hlt (ih hlt)
      · exact .escape rfl escapes_quote (ih (by omega))
    · rw [escapeAll, if_neg (by simpa using hc)]
      rcases escaped_cases true c with ⟨e, he, hread⟩ | ⟨he, hbackslash, hplain⟩
      · rw [he]
        exact .escape rfl hread (ih (by omega))
      · rw [he]
        exact .char hc (fun h => hbackslash h.1) (hplain.imp id And.right) (ih (by omega))

theorem le_longestRun (c : Char) (run : Nat) (cs : List Char) : run ≤ longestRun c run cs := by
  induction cs generalizing run with
  | nil => exact le_rfl
  | cons d cs ih =>
    rw [longestRun]
    split
    · exact (Nat.le_succ run).trans (ih (run + 1))
    · exact le_max_left _ _

/-- Between single quotes a text stands for itself, if it has no three quotes in a row. -/
theorem onLines_self (cs : List Char) (hcontrol : ∀ c ∈ cs, isControl c = false)
    (hquotes : longestRun '\'' run cs ≤ 2) : OnLines '\'' run cs cs := by
  induction cs generalizing run with
  | nil => exact .nil
  | cons c cs ih =>
    have hcs := fun c hc => hcontrol c (List.mem_cons_of_mem _ hc)
    rw [longestRun] at hquotes
    split at hquotes
    · rename_i hc
      rw [beq_iff_eq.1 hc]
      have hlt : run + 1 ≤ 2 := (le_longestRun _ _ cs).trans hquotes
      exact .quote hlt (ih hcs hquotes)
    · rename_i hc
      refine .char (by simpa using hc) (by simp) ?_ (ih hcs ((le_max_right _ _).trans hquotes))
      by_cases hline : c = '\n'
      · exact .inr hline
      · exact .inl (isPlain_of_isControl_eq_false (hcontrol c List.mem_cons_self) hline)

theorem blockFrom_eq (h : OnLines quote 0 text content) (hrest : rest.head? ≠ some quote) :
    blockFrom quote ('\n' :: (text ++ (List.replicate 3 quote ++ rest))) = some (content, rest) := by
  refine h.block_eq (by omega) hrest ?_
  have := h.length_le
  simp only [List.length_cons, List.length_append]
  omega

end OnLines

/-! ## The forms of a string -/

theorem notMem_of_longestRun_eq_zero {c : Char} {cs : List Char} (h : longestRun c 0 cs = 0) :
    c ∉ cs := by
  induction cs with
  | nil => exact List.not_mem_nil
  | cons d cs ih =>
    rw [longestRun] at h
    split at h
    · have := le_longestRun c (0 + 1) cs
      omega
    · rename_i hd
      have hne : d ≠ c := by simpa using hd
      rw [List.mem_cons, not_or]
      exact ⟨hne.symm, ih (by omega)⟩

section Forms

variable {rest : List Char}

/-- The first quotes are not three, if what follows the first one is not a quote, or is the closing
quote and no other quote follows that. -/
theorem ne_quotes {quote : Char} {cs : List Char} (hcs : cs.head? ≠ some quote)
    (hrest : rest.head? ≠ some quote) (more : List Char) :
    cs ++ quote :: rest ≠ quote :: quote :: more := by
  intro h
  cases cs with
  | nil =>
    rw [List.nil_append, List.cons.injEq] at h
    simp [h.2] at hrest
  | cons c cs =>
    rw [List.cons_append, List.cons.injEq] at h
    simp [h.1] at hcs

theorem string?_double {cs : List Char} (h : ∀ more, cs ≠ '"' :: '"' :: more) :
    string? ('"' :: cs) =
      (basic (cs.length + 1) cs).map fun (text, rest) => (String.ofList text, rest) := by
  unfold string?
  split
  · rename_i heq
    cases heq
    exact absurd rfl (h _)
  · rename_i heq
    cases heq
  · rename_i heq
    cases heq
    rfl
  · rename_i heq
    cases heq
  · rename_i hno _
    exact absurd rfl (hno cs)

theorem string?_single {cs : List Char} (h : ∀ more, cs ≠ '\'' :: '\'' :: more) :
    string? ('\'' :: cs) = (literal cs).map fun (text, rest) => (String.ofList text, rest) := by
  unfold string?
  split
  · rename_i heq
    cases heq
  · rename_i heq
    cases heq
    exact absurd rfl (h _)
  · rename_i heq
    cases heq
  · rename_i heq
    cases heq
    rfl
  · rename_i hno
    exact absurd rfl (hno cs)

theorem head?_escapeAll_ne (cs : List Char) : (escapeAll false 0 0 cs).head? ≠ some '"' := by
  cases cs with
  | nil => simp [escapeAll]
  | cons c cs =>
    rw [escapeAll]
    split
    · simp
    · rename_i hc
      rcases escaped_cases false c with ⟨e, he, -⟩ | ⟨he, -, -⟩
      · simp [he]
      · simpa [he] using hc

theorem length_le_escapeAll (cs : List Char) : cs.length ≤ (escapeAll false 0 0 cs).length := by
  induction cs with
  | nil => exact le_rfl
  | cons c cs ih =>
    rw [escapeAll]
    split
    · rw [if_neg (by decide)]
      simp only [List.length_cons, List.length_append]
      omega
    · rcases escaped_cases false c with ⟨e, he, -⟩ | ⟨he, -, -⟩
      · rw [he]
        simp only [List.length_cons, List.length_append]
        omega
      · simpa [he] using ih

theorem string?_basicText (cs : List Char) (hrest : rest.head? ≠ some '"') :
    string? (basicText cs ++ rest) = some (String.ofList cs, rest) := by
  have htext : basicText cs ++ rest = '"' :: (escapeAll false 0 0 cs ++ '"' :: rest) := by
    simp [basicText]
  have hlength := length_le_escapeAll cs
  rw [htext, string?_double (ne_quotes (head?_escapeAll_ne cs) hrest), basic_escapeAll]
  · rfl
  · simp only [List.length_append, List.length_cons]
    omega

theorem string?_literalText {cs : List Char} (hplain : ∀ c ∈ cs, isPlain c = true)
    (hquote : '\'' ∉ cs) (hrest : rest.head? ≠ some '\'') :
    string? (literalText cs ++ rest) = some (String.ofList cs, rest) := by
  have htext : literalText cs ++ rest = '\'' :: (cs ++ '\'' :: rest) := by
    simp [literalText]
  have hhead : cs.head? ≠ some '\'' := fun h => hquote (List.mem_of_head? h)
  rw [htext, string?_single (ne_quotes hhead hrest), literal_append hplain hquote]
  rfl

theorem string?_linesText (cs : List Char) (hrest : rest.head? ≠ some '"') :
    string? (linesText cs ++ rest) = some (String.ofList cs, rest) := by
  have htext : linesText cs ++ rest = '"' :: '"' :: '"' ::
      '\n' :: (escapeAll true 2 0 cs ++ (List.replicate 3 '"' ++ rest)) := by
    simp [linesText]
  rw [htext, string?]
  simp only [blockFrom_eq (onLines_escapeAll (by omega) cs) hrest]
  rfl

theorem string?_literalLinesText {cs : List Char} (hcontrol : ∀ c ∈ cs, isControl c = false)
    (hquotes : longestRun '\'' 0 cs ≤ 2) (hrest : rest.head? ≠ some '\'') :
    string? (literalLinesText cs ++ rest) = some (String.ofList cs, rest) := by
  have htext : literalLinesText cs ++ rest = '\'' :: '\'' :: '\'' ::
      '\n' :: (cs ++ (List.replicate 3 '\'' ++ rest)) := by
    simp [literalLinesText]
  rw [htext, string?]
  simp only [blockFrom_eq (onLines_self cs hcontrol hquotes) hrest]
  rfl

/-- **Every string is read back from its text**, whatever follows but a quote. -/
theorem string?_stringText (s : String) (hdouble : rest.head? ≠ some '"')
    (hsingle : rest.head? ≠ some '\'') :
    string? ((stringText s).toList ++ rest) = some (s, rest) := by
  have hs : String.ofList s.toList = s := String.ofList_toList
  have hcontrol : (traitsOf s.toList).hasControl = false →
      ∀ c ∈ s.toList, isControl c = false := by
    intro h c hc
    simpa using List.any_eq_false.1 h c hc
  rw [stringText, String.toList_ofList]
  split_ifs with hbasic hliteral hlines hliteralLines hfeed
  · rw [string?_basicText _ hdouble, hs]
  · simp only [Bool.and_eq_true, Bool.not_eq_true', beq_iff_eq] at hliteral
    obtain ⟨⟨hno, hfeed⟩, hquotes⟩ := hliteral
    have hplain : ∀ c ∈ s.toList, isPlain c = true := by
      intro c hc
      refine isPlain_of_isControl_eq_false (hcontrol hno c hc) ?_
      rintro rfl
      exact absurd hc (by simpa [traitsOf] using hfeed)
    rw [string?_literalText hplain (notMem_of_longestRun_eq_zero hquotes) hsingle, hs]
  · rw [string?_linesText _ hdouble, hs]
  · simp only [Bool.and_eq_true, Bool.not_eq_true', decide_eq_true_eq] at hliteralLines
    rw [string?_literalLinesText (hcontrol hliteralLines.1) hliteralLines.2 hsingle, hs]
  · rw [string?_linesText _ hdouble, hs]
  · rw [string?_basicText _ hdouble, hs]

end Forms

end MemberSpec.Toml
