import Mathlib
import MemberSpec.Proofs.ClassFile.ModifiedUtf8

/-!
# Text written as UTF-8 and read back

The bytes of a string are those of its characters one after the other, and decoding takes the bytes of a
character for that character, whatever follows them.

* `step_utf8EncodeChar`: the bytes of any character are read as it.
* `decode_toUTF8`: the bytes of a string decode to its characters.
-/

namespace MemberSpec.Text.Utf8

open ClassFile.ModifiedUtf8 (isContinuation_ofNat unitBytes step_scalar isScalar decodeFrom_skip)

theorem toList_loop_eq (bytes : ByteArray) (i : Nat) (taken : List UInt8) :
    ByteArray.toList.loop bytes i taken = taken.reverse ++ bytes.data.toList.drop i := by
  fun_induction ByteArray.toList.loop bytes i taken with
  | case1 i taken hi ih =>
    have hdrop : bytes.data.toList.drop i = bytes.get! i :: bytes.data.toList.drop (i + 1) := by
      rw [List.drop_eq_getElem_cons (by simpa using hi)]
      simp [ByteArray.get!, hi]
    rw [ih, hdrop, List.reverse_cons, List.append_assoc]
    rfl
  | case2 i taken hi =>
    rw [List.drop_eq_nil_of_le (by simpa using hi), List.append_nil]

/-- The bytes of a string are those of its characters. -/
theorem toList_toUTF8 (s : String) : s.toUTF8.toList = s.toList.flatMap String.utf8EncodeChar := by
  rw [ByteArray.toList, toList_loop_eq, List.reverse_nil, List.nil_append, List.drop_zero, String.toUTF8,
    ← String.utf8Encode_toList, List.utf8Encode, List.toList_data_toByteArray]

/-- The second byte of a sequence of four rules out overlong forms and code points that are too
large. -/
theorem secondOfFour_ofNat {n : Nat} (hlow : 0x10000 ≤ n) (hhigh : n < 0x110000) :
    secondOfFour (UInt8.ofNat (0xF0 + n / 262144)) (UInt8.ofNat (0x80 + n / 4096 % 64)) = true := by
  have hlead := UInt8.toNat_ofNat_of_lt' (show 0xF0 + n / 262144 < 256 by omega)
  have hsecond := UInt8.toNat_ofNat_of_lt' (show 0x80 + n / 4096 % 64 < 256 by omega)
  have hcont := (isContinuation_ofNat (show n / 4096 % 64 < 64 by omega)).1
  unfold secondOfFour
  split
  · rename_i h
    rw [beq_iff_eq, ← UInt8.toNat_inj, hlead] at h
    simp only [Bool.and_eq_true, decide_eq_true_eq, UInt8.le_iff_toNat_le, hsecond]
    simp at h ⊢
    omega
  · split
    · rename_i h
      rw [beq_iff_eq, ← UInt8.toNat_inj, hlead] at h
      simp only [Bool.and_eq_true, decide_eq_true_eq, UInt8.le_iff_toNat_le, hsecond]
      simp at h ⊢
      omega
    · exact hcont

theorem step_four {n : Nat} (hlow : 0x10000 ≤ n) (hhigh : n < 0x110000) (rest : List UInt8) :
    step (UInt8.ofNat (0xF0 + n / 262144))
        (UInt8.ofNat (0x80 + n / 4096 % 64) :: UInt8.ofNat (0x80 + n / 64 % 64) ::
          UInt8.ofNat (0x80 + n % 64) :: rest) =
      .char (Char.ofNat n) 4 := by
  have h := UInt8.toNat_ofNat_of_lt' (show 0xF0 + n / 262144 < 256 by omega)
  have hsecond := secondOfFour_ofNat hlow hhigh
  obtain ⟨-, hpay⟩ := isContinuation_ofNat (show n / 4096 % 64 < 64 by omega)
  obtain ⟨hcont, hpay'⟩ := isContinuation_ofNat (show n / 64 % 64 < 64 by omega)
  obtain ⟨hcont', hpay''⟩ := isContinuation_ofNat (show n % 64 < 64 by omega)
  have h1 : ¬ UInt8.ofNat (0xF0 + n / 262144) < (0x80 : UInt8) := by
    rw [UInt8.lt_iff_toNat_lt, h]; simp; omega
  have h2 : ¬ UInt8.ofNat (0xF0 + n / 262144) ≤ (0xDF : UInt8) := by
    rw [UInt8.le_iff_toNat_le, h]; simp; omega
  have h3 : ¬ UInt8.ofNat (0xF0 + n / 262144) ≤ (0xEF : UInt8) := by
    rw [UInt8.le_iff_toNat_le, h]; simp; omega
  have h4 : (0xF0 : UInt8) ≤ UInt8.ofNat (0xF0 + n / 262144) := by
    rw [UInt8.le_iff_toNat_le, h]; simp
  have h5 : UInt8.ofNat (0xF0 + n / 262144) ≤ (0xF4 : UInt8) := by
    rw [UInt8.le_iff_toNat_le, h]; simp; omega
  have hvalue : (((0xF0 + n / 262144) % 8 * 64 + n / 4096 % 64) * 64 + n / 64 % 64) * 64 + n % 64 = n := by
    omega
  simp only [step, h1, h2, h3, h4, h5, if_false, decide_true, decide_false, Bool.and_false,
    Bool.and_self, if_true, Bool.false_eq_true, hsecond, hcont, hcont', hpay, hpay', hpay'', h, hvalue]

theorem utf8EncodeChar_eq_unitBytes {c : Char} (hc : c.toNat < 0x10000) :
    String.utf8EncodeChar c = unitBytes c.toNat := by
  have hval : c.val.toNat = c.toNat := rfl
  unfold String.utf8EncodeChar unitBytes
  simp only [hval]
  by_cases h1 : c.toNat < 0x80
  · rw [if_pos h1, if_pos (by omega)]
  · by_cases h2 : c.toNat < 0x800
    · rw [if_neg h1, if_pos h2, if_neg (by omega), if_pos (by omega), Nat.mod_eq_of_lt (by omega),
        Nat.add_comm, Nat.add_comm _ 128]
    · rw [if_neg h1, if_neg h2, if_neg (by omega), if_neg (by omega), if_pos (by omega),
        Nat.mod_eq_of_lt (by omega), Nat.add_comm, Nat.add_comm _ 128, Nat.add_comm _ 128]

/-- **The bytes of a character** are read as it, whatever follows them. -/
theorem step_utf8EncodeChar (c : Char) :
    ∃ lead tail, String.utf8EncodeChar c = lead :: tail ∧
      ∀ rest, step lead (tail ++ rest) = .char c (tail.length + 1) := by
  by_cases hc : c.toNat < 0x10000
  · rw [utf8EncodeChar_eq_unitBytes hc]
    have hstep := step_scalar hc (isScalar c)
    rwa [Char.ofNat_toNat] at hstep
  · have hval : c.val.toNat = c.toNat := rfl
    have hhigh : c.toNat < 0x110000 := by
      rcases c.valid with h | h
      · exact Nat.lt_trans h (by decide)
      · exact h.2
    refine ⟨UInt8.ofNat (0xF0 + c.toNat / 262144), [UInt8.ofNat (0x80 + c.toNat / 4096 % 64),
      UInt8.ofNat (0x80 + c.toNat / 64 % 64), UInt8.ofNat (0x80 + c.toNat % 64)], ?_, fun rest => ?_⟩
    · unfold String.utf8EncodeChar
      simp only [hval]
      rw [if_neg (by omega), if_neg (by omega), if_neg (by omega), Nat.mod_eq_of_lt (by omega),
        Nat.add_comm, Nat.add_comm _ 128, Nat.add_comm _ 128, Nat.add_comm _ 128]
    · have hstep := step_four (by omega) hhigh rest
      rwa [Char.ofNat_toNat] at hstep

theorem decodeFrom_flatMap (valid : Nat) (cs : List Char) :
    decodeFrom valid 0 (cs.flatMap String.utf8EncodeChar) = .ok cs := by
  induction cs generalizing valid with
  | nil => rfl
  | cons c cs ih =>
    obtain ⟨lead, tail, hbytes, hstep⟩ := step_utf8EncodeChar c
    rw [List.flatMap_cons, hbytes, List.cons_append, decodeFrom, hstep]
    simp only [Nat.add_sub_cancel, decodeFrom_skip, ih]
    rfl

/-- **The bytes of a string** decode to its characters. -/
theorem decode_toUTF8 (s : String) : decode s.toUTF8.toList = .ok s.toList := by
  rw [decode, toList_toUTF8, decodeFrom_flatMap]

end MemberSpec.Text.Utf8
