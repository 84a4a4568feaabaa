import Mathlib
import MemberSpec.ClassFile.ModifiedUtf8

/-!
# Strings of class files, written and read

The encoding of strings in class files, unit by unit: a character up to U+FFFF is one 16-bit unit, a
supplementary character the two units of its surrogates, and the unit 0 is the pair `C0 80`.

* `unpairNul_encodeUnit`: the pair `C0 80` arises from NUL only.
* `decode_eq`: decoding bytes without the pair as they are is decoding them with all pairs replaced.
* `step_scalar`, `step_surrogate`: the bytes of a character up to U+FFFF are read as that character, and
  those of a surrogate are a fault.
* `decode_encode`: a string without supplementary characters is read back as it was written.
* `decode_encode_of_not_basic`: any other string is refused at its first supplementary character.
-/

namespace MemberSpec.ClassFile.ModifiedUtf8

open Text Utf8

/-- The 16-bit units of a character. -/
def units (c : Char) : List Nat :=
  if c.toNat < 0x10000 then [c.toNat]
  else [0xD800 + (c.toNat - 0x10000) / 1024, 0xDC00 + (c.toNat - 0x10000) % 1024]

/-- The bytes of a unit that is not 0: one, two or three. -/
def unitBytes (n : Nat) : List UInt8 :=
  if n < 0x80 then [UInt8.ofNat n]
  else if n < 0x800 then [UInt8.ofNat (0xC0 + n / 64), UInt8.ofNat (0x80 + n % 64)]
  else [UInt8.ofNat (0xE0 + n / 4096), UInt8.ofNat (0x80 + n / 64 % 64), UInt8.ofNat (0x80 + n % 64)]

/-- The bytes of a unit. -/
def encodeUnit (n : Nat) : List UInt8 := if n = 0 then [0xC0, 0x80] else unitBytes n

/-- The bytes of a string in a class file. -/
def encode (s : String) : List UInt8 := s.toList.flatMap fun c => (units c).flatMap encodeUnit

theorem unpairNul_cons {b : UInt8} (hb : b ≠ 0xC0) (rest : List UInt8) :
    unpairNul (b :: rest) = b :: unpairNul rest := by
  rw [unpairNul]
  intro tail h
  exact absurd h hb

theorem unpairNul_append {bytes : List UInt8} (h : ∀ b ∈ bytes, b ≠ 0xC0) (rest : List UInt8) :
    unpairNul (bytes ++ rest) = bytes ++ unpairNul rest := by
  induction bytes with
  | nil => rfl
  | cons b bytes ih =>
    rw [List.cons_append, unpairNul_cons (h b List.mem_cons_self),
      ih fun b hb => h b (List.mem_cons_of_mem _ hb), List.cons_append]

theorem unitBytes_ne {n : Nat} (hn : n < 0x10000) : ∀ b ∈ unitBytes n, b ≠ 0xC0 := by
  intro b hb heq
  have h : b.toNat = 0xC0 := by rw [heq]; rfl
  unfold unitBytes at hb
  split at hb
  · simp only [List.mem_singleton] at hb
    rw [hb, UInt8.toNat_ofNat'] at h
    omega
  · split at hb
    · simp only [List.mem_cons, List.not_mem_nil, or_false] at hb
      rcases hb with rfl | rfl <;> rw [UInt8.toNat_ofNat'] at h <;> omega
    · simp only [List.mem_cons, List.not_mem_nil, or_false] at hb
      rcases hb with rfl | rfl | rfl <;> rw [UInt8.toNat_ofNat'] at h <;> omega

/-- The pair for NUL becomes a zero byte, and the bytes of no other unit change. -/
theorem unpairNul_encodeUnit {n : Nat} (hn : n < 0x10000) (rest : List UInt8) :
    unpairNul (encodeUnit n ++ rest) = unitBytes n ++ unpairNul rest := by
  unfold encodeUnit
  split
  · rename_i h
    subst h
    rfl
  · exact unpairNul_append (unitBytes_ne hn) rest

theorem hasNulPair_iff {bytes : List UInt8} :
    hasNulPair bytes = true ↔ [0xC0, 0x80] <:+: bytes := by
  fun_induction hasNulPair bytes with
  | case1 rest => exact ⟨fun _ => ⟨[], rest, rfl⟩, fun _ => rfl⟩
  | case2 b rest hother ih =>
    have hstart : ¬ [0xC0, 0x80] <+: b :: rest := by
      rintro ⟨tail, h⟩
      obtain ⟨rfl, rfl⟩ := List.cons.inj h
      exact hother tail rfl rfl
    rw [ih, List.infix_cons_iff, or_iff_right hstart]
  | case3 => simp

theorem unpairNul_eq_self {bytes : List UInt8} (h : hasNulPair bytes = false) :
    unpairNul bytes = bytes := by
  fun_induction hasNulPair bytes with
  | case1 rest => cases h
  | case2 b rest hother ih => rw [unpairNul.eq_2 b rest hother, ih h]
  | case3 => rfl

/-- **Bytes without the pair need no replacement.** -/
theorem decode_eq (bytes : List UInt8) :
    decode bytes = (Utf8.decode (unpairNul bytes)).map String.ofList := by
  unfold decode
  split
  · rfl
  · rename_i h
    rw [unpairNul_eq_self (by simpa using h)]

theorem isContinuation_ofNat {n : Nat} (hn : n < 64) :
    isContinuation (UInt8.ofNat (0x80 + n)) = true ∧ payload (UInt8.ofNat (0x80 + n)) = n := by
  have h := UInt8.toNat_ofNat_of_lt' (show 0x80 + n < 256 by omega)
  have hlow : (0x80 : UInt8) ≤ UInt8.ofNat (0x80 + n) := by
    rw [UInt8.le_iff_toNat_le, h]; simp
  have hhigh : UInt8.ofNat (0x80 + n) ≤ (0xBF : UInt8) := by
    rw [UInt8.le_iff_toNat_le, h]; simp; omega
  refine ⟨by rw [isContinuation, decide_eq_true hlow, decide_eq_true hhigh]; rfl, ?_⟩
  rw [payload, h]
  omega

theorem step_one {n : Nat} (hn : n < 0x80) (rest : List UInt8) :
    step (UInt8.ofNat n) rest = .char (Char.ofNat n) 1 := by
  have h := UInt8.toNat_ofNat_of_lt' (show n < 256 by omega)
  have hlow : UInt8.ofNat n < (0x80 : UInt8) := by
    rw [UInt8.lt_iff_toNat_lt, h]; simpa using hn
  simp [step, hlow, h]

theorem step_two {n : Nat} (hlow : 0x80 ≤ n) (hhigh : n < 0x800) (rest : List UInt8) :
    step (UInt8.ofNat (0xC0 + n / 64)) (UInt8.ofNat (0x80 + n % 64) :: rest) =
      .char (Char.ofNat n) 2 := by
  have h := UInt8.toNat_ofNat_of_lt' (show 0xC0 + n / 64 < 256 by omega)
  obtain ⟨hcont, hpay⟩ := isContinuation_ofNat (show n % 64 < 64 by omega)
  have h1 : ¬ UInt8.ofNat (0xC0 + n / 64) < (0x80 : UInt8) := by
    rw [UInt8.lt_iff_toNat_lt, h]; simp; omega
  have h2 : (0xC2 : UInt8) ≤ UInt8.ofNat (0xC0 + n / 64) := by
    rw [UInt8.le_iff_toNat_le, h]; simp; omega
  have h3 : UInt8.ofNat (0xC0 + n / 64) ≤ (0xDF : UInt8) := by
    rw [UInt8.le_iff_toNat_le, h]; simp; omega
  have hvalue : (0xC0 + n / 64) % 32 * 64 + n % 64 = n := by omega
  simp only [step, h1, h2, h3, if_false, decide_true, Bool.and_self, if_true, hcont, hpay, h, hvalue]

/-- The second byte of a sequence of three rules out overlong forms and surrogates. -/
theorem secondOfThree_ofNat {n : Nat} (hlow : 0x800 ≤ n) (hhigh : n < 0x10000)
    (hscalar : n < 0xD800 ∨ 0xE000 ≤ n) :
    secondOfThree (UInt8.ofNat (0xE0 + n / 4096)) (UInt8.ofNat (0x80 + n / 64 % 64)) = true := by
  have hlead := UInt8.toNat_ofNat_of_lt' (show 0xE0 + n / 4096 < 256 by omega)
  have hsecond := UInt8.toNat_ofNat_of_lt' (show 0x80 + n / 64 % 64 < 256 by omega)
  have hcont := (isContinuation_ofNat (show n / 64 % 64 < 64 by omega)).1
  unfold secondOfThree
  -- the lead bytes E0 and ED have a range of their own for the second byte
  split
  · rename_i h
    rw [beq_iff_eq, ← UInt8.toNat_inj, hlead] at h
    simp only [Bool.and_eq_true, decide_eq_true_eq, UInt8.le_iff_toNat_le, hsecond]
    simp at h ⊢
    omega
  · split
    · rename_i h
      rw [beq_iff_eq, ← UInt8.toNat_inj, hlead] at h
      simp only [Bool.and_eq_true, decide_eq_true_eq, UInt8.le_iff_toNat_le, hsecond]
      simp at h ⊢
      omega
    · exact hcont

theorem step_three {n : Nat} (hlow : 0x800 ≤ n) (hhigh : n < 0x10000)
    (hscalar : n < 0xD800 ∨ 0xE000 ≤ n) (rest : List UInt8) :
    step (UInt8.ofNat (0xE0 + n / 4096))
        (UInt8.ofNat (0x80 + n / 64 % 64) :: UInt8.ofNat (0x80 + n % 64) :: rest) =
      .char (Char.ofNat n) 3 := by
  have h := UInt8.toNat_ofNat_of_lt' (show 0xE0 + n / 4096 < 256 by omega)
  have hsecond := secondOfThree_ofNat hlow hhigh hscalar
  obtain ⟨-, hpay⟩ := isContinuation_ofNat (show n / 64 % 64 < 64 by omega)
  obtain ⟨hcont, hpay'⟩ := isContinuation_ofNat (show n % 64 < 64 by omega)
  have h1 : ¬ UInt8.ofNat (0xE0 + n / 4096) < (0x80 : UInt8) := by
    rw [UInt8.lt_iff_toNat_lt, h]; simp; omega
  have h2 : ¬ UInt8.ofNat (0xE0 + n / 4096) ≤ (0xDF : UInt8) := by
    rw [UInt8.le_iff_toNat_le, h]; simp; omega
  have h3 : (0xE0 : UInt8) ≤ UInt8.ofNat (0xE0 + n / 4096) := by
    rw [UInt8.le_iff_toNat_le, h]; simp
  have h4 : UInt8.ofNat (0xE0 + n / 4096) ≤ (0xEF : UInt8) := by
    rw [UInt8.le_iff_toNat_le, h]; simp; omega
  have hvalue : ((0xE0 + n / 4096) % 16 * 64 + n / 64 % 64) * 64 + n % 64 = n := by omega
  simp only [step, h1, h2, h3, h4, if_false, decide_true, decide_false, Bool.and_false,
    Bool.and_self, if_true, Bool.false_eq_true, hsecond, hcont, hpay, hpay', h, hvalue]

/-- The bytes of a unit that is no surrogate are read as its character, whatever follows them. -/
theorem step_scalar {n : Nat} (hn : n < 0x10000) (hscalar : n < 0xD800 ∨ 0xE000 ≤ n) :
    ∃ lead tail, unitBytes n = lead :: tail ∧
      ∀ rest, step lead (tail ++ rest) = .char (Char.ofNat n) (tail.length + 1) := by
  by_cases h1 : n < 0x80
  · exact ⟨_, _, if_pos h1, step_one h1⟩
  · by_cases h2 : n < 0x800
    · exact ⟨_, _, by rw [unitBytes, if_neg h1, if_pos h2], step_two (by omega) h2⟩
    · exact ⟨_, _, by rw [unitBytes, if_neg h1, if_neg h2], step_three (by omega) hn hscalar⟩

theorem decodeFrom_skip (valid : Nat) (bytes rest : List UInt8) :
    decodeFrom valid bytes.length (bytes ++ rest) = decodeFrom valid 0 rest := by
  induction bytes with
  | nil => rfl
  | cons b bytes ih => simpa [decodeFrom] using ih

theorem isScalar (c : Char) : c.toNat < 0xD800 ∨ 0xE000 ≤ c.toNat := by
  rcases c.valid with h | h
  · exact .inl h
  · exact .inr (by have := h.1; simp only [Char.toNat]; omega)

theorem length_unitBytes {c : Char} (hc : c.toNat < 0x10000) :
    (unitBytes c.toNat).length = c.utf8Size := by
  have hval : c.val.toNat = c.toNat := rfl
  unfold unitBytes Char.utf8Size
  simp only [UInt32.le_iff_toNat_le, hval]
  by_cases h1 : c.toNat < 0x80
  · rw [if_pos h1, if_pos (by simp; omega)]
    rfl
  · by_cases h2 : c.toNat < 0x800
    · rw [if_neg h1, if_pos h2, if_neg (by simp; omega), if_pos (by simp; omega)]
      rfl
    · rw [if_neg h1, if_neg h2, if_neg (by simp; omega), if_neg (by simp; omega), if_pos (by simp; omega)]
      rfl

theorem decodeFrom_unitBytes {c : Char} (hc : c.toNat < 0x10000) (valid : Nat)
    (rest : List UInt8) :
    decodeFrom valid 0 (unitBytes c.toNat ++ rest) =
      (decodeFrom (valid + c.utf8Size) 0 rest).map (c :: ·) := by
  obtain ⟨lead, tail, hbytes, hstep⟩ := step_scalar hc (isScalar c)
  have hlength : tail.length + 1 = c.utf8Size := by
    rw [← length_unitBytes hc, hbytes, List.length_cons]
  rw [hbytes, List.cons_append, decodeFrom, hstep]
  simp only [Nat.add_sub_cancel, decodeFrom_skip, Char.ofNat_toNat]
  rw [hlength]

/-- The bytes of characters. -/
def encodeChars (cs : List Char) : List UInt8 := cs.flatMap fun c => (units c).flatMap encodeUnit

theorem encode_eq (s : String) : encode s = encodeChars s.toList := rfl

/-- The decoder reads characters up to U+FFFF back, one by one, and goes on behind them. -/
theorem decodeFrom_encodeChars {cs : List Char} (hcs : ∀ c ∈ cs, c.toNat < 0x10000) (valid : Nat)
    (rest : List UInt8) :
    decodeFrom valid 0 (unpairNul (encodeChars cs ++ rest)) =
      (decodeFrom (valid + (cs.map Char.utf8Size).sum) 0 (unpairNul rest)).map (cs ++ ·) := by
  induction cs generalizing valid with
  | nil =>
    have hmap : (decodeFrom valid 0 (unpairNul rest)).map ([] ++ ·) =
        decodeFrom valid 0 (unpairNul rest) := by
      cases decodeFrom valid 0 (unpairNul rest) <;> rfl
    exact hmap.symm
  | cons c cs ih =>
    have hc := hcs c List.mem_cons_self
    have hunits : (units c).flatMap encodeUnit = encodeUnit c.toNat := by simp [units, hc]
    have hcons : encodeChars (c :: cs) = encodeUnit c.toNat ++ encodeChars cs := by
      rw [encodeChars, List.flatMap_cons, hunits]
      rfl
    rw [hcons, List.append_assoc, unpairNul_encodeUnit hc, decodeFrom_unitBytes hc,
      ih fun c hc => hcs c (List.mem_cons_of_mem _ hc), List.map_cons, List.sum_cons, Nat.add_assoc]
    cases decodeFrom (valid + (c.utf8Size + (cs.map Char.utf8Size).sum)) 0 (unpairNul rest) <;> rfl

/-- **Strings are read back as written**, if they have no supplementary characters. -/
theorem decode_encode {s : String} (hs : ∀ c ∈ s.toList, c.toNat < 0x10000) :
    decode (encode s) = .ok s := by
  have h := decodeFrom_encodeChars hs 0 []
  rw [List.append_nil] at h
  rw [decode_eq, Utf8.decode, encode_eq, h]
  simp [unpairNul, decodeFrom, Except.map]

/-- The first byte of a surrogate is a fault, as no character goes on as the surrogate does. -/
theorem step_surrogate {n : Nat} (hlow : 0xD800 ≤ n) (hhigh : n < 0xE000) :
    ∃ lead tail, unitBytes n = lead :: tail ∧ ∀ rest, step lead (tail ++ rest) = .fault (some 1) := by
  have hbytes : unitBytes n = [UInt8.ofNat (0xE0 + n / 4096), UInt8.ofNat (0x80 + n / 64 % 64),
      UInt8.ofNat (0x80 + n % 64)] := by
    rw [unitBytes, if_neg (by omega), if_neg (by omega)]
  have hlead : UInt8.ofNat (0xE0 + n / 4096) = 0xED := by
    rw [show 0xE0 + n / 4096 = 0xED by omega]
    rfl
  have hsecond := UInt8.toNat_ofNat_of_lt' (show 0x80 + n / 64 % 64 < 256 by omega)
  have hlate : ¬ UInt8.ofNat (0x80 + n / 64 % 64) ≤ (0x9F : UInt8) := by
    rw [UInt8.le_iff_toNat_le, hsecond]; simp; omega
  refine ⟨_, _, hbytes, fun rest => ?_⟩
  rw [hlead]
  generalize UInt8.ofNat (0x80 + n / 64 % 64) = second at hlate ⊢
  have hrefused : secondOfThree 0xED second = false := by simp [secondOfThree, hlate]
  simp [step, hrefused]

/-- A supplementary character is refused where it starts. -/
theorem decodeFrom_supplementary {c : Char} (hc : ¬ c.toNat < 0x10000) (valid : Nat)
    (rest : List UInt8) :
    decodeFrom valid 0 (unpairNul ((units c).flatMap encodeUnit ++ rest)) =
      .error ⟨valid, some 1⟩ := by
  have hmax : c.toNat < 0x110000 := by
    rcases c.valid with h | h
    · exact absurd (Nat.lt_trans h (by decide)) hc
    · exact h.2
  -- the high surrogate comes first, and already its first byte is refused
  set high := 0xD800 + (c.toNat - 0x10000) / 1024 with hhigh
  obtain ⟨lead, tail, hbytes, hstep⟩ := step_surrogate (n := high) (by omega) (by omega)
  have hunits : ∃ low, units c = [high, low] := ⟨_, by rw [units, if_neg hc]⟩
  obtain ⟨low, hunits⟩ := hunits
  rw [hunits, List.flatMap_cons, List.append_assoc, unpairNul_encodeUnit (by omega), hbytes,
    List.cons_append, decodeFrom, hstep]

/-- A character that takes one unit. -/
def isBasic (c : Char) : Bool := c.toNat < 0x10000

/-- **A string with a supplementary character is refused** where the first one starts. -/
theorem decode_encode_of_not_basic {s : String} (hsome : ¬ s.toList.all isBasic = true) :
    decode (encode s) =
      .error ⟨((s.toList.takeWhile isBasic).map Char.utf8Size).sum, some 1⟩ := by
  have hbefore : ∀ c ∈ s.toList.takeWhile isBasic, c.toNat < 0x10000 := by
    intro c hc
    simpa [isBasic] using List.mem_takeWhile_imp hc
  -- the string goes on behind its basic start with a supplementary character
  obtain ⟨c, after, hafter⟩ : ∃ c after, s.toList.dropWhile isBasic = c :: after := by
    apply List.exists_cons_of_ne_nil
    rw [Ne, List.dropWhile_eq_nil_iff]
    simpa using hsome
  have hc : ¬ c.toNat < 0x10000 := by
    have h := List.head?_dropWhile_not isBasic s.toList
    rw [hafter] at h
    simpa [isBasic] using h
  have hsplit : encode s = encodeChars (s.toList.takeWhile isBasic) ++
      ((units c).flatMap encodeUnit ++ encodeChars after) := by
    conv_lhs => rw [encode_eq, ← List.takeWhile_append_dropWhile (p := isBasic) (l := s.toList), hafter]
    simp [encodeChars]
  rw [decode_eq, Utf8.decode, hsplit, decodeFrom_encodeChars hbefore, decodeFrom_supplementary hc,
    Nat.zero_add]
  rfl

/-- **What becomes of a written string, and of any bytes.** A string is read back if all its characters
are basic, and else refused where its first supplementary character starts. Bytes without the pair for
NUL, which are decoded as they are, give what they would give with all pairs replaced. -/
theorem decode_encode_eq (s : String) (bytes : List UInt8) :
    decode (encode s) =
        (if s.toList.all isBasic then .ok s
          else .error ⟨((s.toList.takeWhile isBasic).map Char.utf8Size).sum, some 1⟩) ∧
      (hasNulPair bytes = true ↔ [0xC0, 0x80] <:+: bytes) ∧
      decode bytes = (Utf8.decode (unpairNul bytes)).map String.ofList := by
  refine ⟨?_, hasNulPair_iff, decode_eq bytes⟩
  split
  · rename_i hall
    exact decode_encode (by simpa [isBasic] using hall)
  · rename_i hsome
    exact decode_encode_of_not_basic hsome

end MemberSpec.ClassFile.ModifiedUtf8
