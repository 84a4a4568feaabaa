import Mathlib
import MemberSpec.ClassFile.Reader

/-!
# Readers and what they read

`Reads r bytes a` says that a reader takes exactly these bytes, whatever follows them, and gives `a`.
The relation is closed under sequence (`Reads.bind`) and repetition (`reads_times`), and holds of
numbers written with the high byte first (`reads_u1`, `reads_u2`, `reads_u4`).
-/

namespace MemberSpec.ClassFile.Reader

variable {α β : Type}

/-- The reader takes exactly these bytes and gives the value. -/
def Reads (r : Reader α) (bytes : List UInt8) (a : α) : Prop :=
  ∀ rest, r.run (bytes ++ rest) = .ok (a, rest)

theorem reads_pure (a : α) : Reads (pure a) [] a := fun _ => rfl

theorem Reads.bind {r : Reader α} {f : α → Reader β} {bytes bytes' : List UInt8} {a : α} {b : β}
    (h : Reads r bytes a) (h' : Reads (f a) bytes' b) : Reads (r >>= f) (bytes ++ bytes') b := by
  intro rest
  rw [StateT.run_bind, List.append_assoc, h]
  exact h' rest

/-- A reader that takes no bytes, before one that may. -/
theorem Reads.nil_bind {r : Reader α} {f : α → Reader β} {bytes : List UInt8} {a : α} {b : β}
    (h : Reads r [] a) (h' : Reads (f a) bytes b) : Reads (r >>= f) bytes b :=
  h.bind h'

/-- A reader that takes all the bytes, before one that takes none. -/
theorem Reads.bind_nil {r : Reader α} {f : α → Reader β} {bytes : List UInt8} {a : α} {b : β}
    (h : Reads r bytes a) (h' : Reads (f a) [] b) : Reads (r >>= f) bytes b := by
  have hbind := h.bind h'
  rwa [List.append_nil] at hbind

theorem Reads.bind_pure {r : Reader α} {bytes : List UInt8} {a : α} (h : Reads r bytes a)
    (f : α → β) : Reads (r >>= fun a => pure (f a)) bytes (f a) :=
  h.bind_nil (reads_pure (f a))

theorem reads_lift {x : Except Fault α} {a : α} (h : x = .ok a) :
    Reads (liftM x : Reader α) [] a := by
  intro rest
  rw [h]
  rfl

theorem reads_take (bytes : List UInt8) : Reads (take bytes.length) bytes bytes := by
  intro rest
  have hrun : (take bytes.length).run (bytes ++ rest) =
      if bytes.length ≤ (bytes ++ rest).length then
        .ok ((bytes ++ rest).take bytes.length, (bytes ++ rest).drop bytes.length)
      else .error .unexpectedEnd := rfl
  rw [hrun, if_pos (by simp), List.take_left, List.drop_left]

theorem reads_skip {bytes : List UInt8} {n : Nat} (h : bytes.length = n) :
    Reads (skip n) bytes () := by
  subst h
  exact (reads_take bytes).bind_pure fun _ => ()

/-- `width` bytes of a number, high byte first. -/
def bigEndian : Nat → Nat → List UInt8
  | 0, _ => []
  | width + 1, n => bigEndian width (n / 256) ++ [UInt8.ofNat (n % 256)]

@[simp] theorem length_bigEndian (width n : Nat) : (bigEndian width n).length = width := by
  induction width generalizing n with
  | zero => rfl
  | succ width ih => simp [bigEndian, ih]

theorem number_bigEndian {width n : Nat} (h : n < 256 ^ width) : number (bigEndian width n) = n := by
  induction width generalizing n with
  | zero =>
    rw [pow_zero, Nat.lt_one_iff] at h
    rw [h]
    rfl
  | succ width ih =>
    have hdiv : n / 256 < 256 ^ width := by
      rw [Nat.div_lt_iff_lt_mul (by omega)]
      rwa [pow_succ] at h
    have hsplit : number (bigEndian (width + 1) n) =
        number (bigEndian width (n / 256)) * 256 + (UInt8.ofNat (n % 256)).toNat := by
      rw [number, bigEndian, List.foldl_append]
      rfl
    rw [hsplit, ih hdiv, UInt8.toNat_ofNat_of_lt' (show n % 256 < 256 by omega)]
    omega

theorem reads_number {width n : Nat} {f : Nat → α} (h : n < 256 ^ width) :
    Reads (do return f (number (← take width))) (bigEndian width n) (f n) := by
  have htake := reads_take (bigEndian width n)
  rw [length_bigEndian] at htake
  have hnumber := htake.bind_pure fun bytes => f (number bytes)
  rwa [number_bigEndian h] at hnumber

theorem reads_u1 (n : UInt8) : Reads u1 (bigEndian 1 n.toNat) n := by
  have h := reads_number (f := UInt8.ofNat) (show n.toNat < 256 ^ 1 from n.toNat_lt)
  rwa [UInt8.ofNat_toNat] at h

theorem reads_u2 (n : UInt16) : Reads u2 (bigEndian 2 n.toNat) n := by
  have h := reads_number (f := UInt16.ofNat) (show n.toNat < 256 ^ 2 from n.toNat_lt)
  rwa [UInt16.ofNat_toNat] at h

theorem reads_u4 (n : UInt32) : Reads u4 (bigEndian 4 n.toNat) n := by
  have h := reads_number (f := UInt32.ofNat) (show n.toNat < 256 ^ 4 from n.toNat_lt)
  rwa [UInt32.ofNat_toNat] at h

/-- Repetition: each of the values is read from the bytes of its own element. -/
theorem reads_times {r : Reader β} {bytesOf : α → List UInt8} {xs : List α} {bs : List β}
    (h : List.Forall₂ (fun x b => Reads r (bytesOf x) b) xs bs) :
    Reads (times xs.length r) (xs.flatMap bytesOf) bs := by
  induction h with
  | nil => exact reads_pure []
  | cons hx _ ih => exact hx.bind (ih.bind_pure fun bs => _ :: bs)

theorem reads_times_map {r : Reader β} {bytesOf : α → List UInt8} {value : α → β} {xs : List α}
    (h : ∀ x ∈ xs, Reads r (bytesOf x) (value x)) :
    Reads (times xs.length r) (xs.flatMap bytesOf) (xs.map value) :=
  reads_times (List.forall₂_map_right_iff.2 (List.forall₂_same.2 h))

end MemberSpec.ClassFile.Reader
