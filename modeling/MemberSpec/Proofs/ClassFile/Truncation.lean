import Mathlib
import MemberSpec.Proofs.ClassFile.Layout
import MemberSpec.Proofs.Session

/-!
# Class files that are cut short

Whether bytes are a class file depends on a start of them only, and every shorter start is refused as
one that ends too early. This is a property of readers that every step of the class file reader has
(`Definite`): a reader that succeeds does so by the bytes that it takes, and meets nothing but the end
of the bytes when some of these are missing.

* `Definite.bind`, `definite_times`: the property passes to sequences and repetitions.
* `definite_readSlots`, `definite_readMethod`, `definite_read`: the parts of a class file, and all of it.
* `parse_determined_by_start`: the same for whole class files.
-/

namespace MemberSpec.ClassFile

namespace Reader

variable {α β : Type}

/-- The reader takes these bytes for the value, and none of them can be missing at the end. -/
structure Needs (r : Reader α) (used : List UInt8) (a : α) : Prop where
  reads : Reads r used a
  short : ∀ j < used.length, r.run (used.take j) = .error .unexpectedEnd

/-- Whenever the reader succeeds, it needs the bytes that it takes, and no others. -/
def Definite (r : Reader α) : Prop :=
  ∀ bytes rest a, r.run bytes = .ok (a, rest) → ∃ used, bytes = used ++ rest ∧ Needs r used a

theorem needs_pure (a : α) : Needs (pure a) [] a :=
  ⟨reads_pure a, fun j hj => absurd hj (Nat.not_lt_zero j)⟩

theorem definite_pure (a : α) : Definite (pure a : Reader α) := by
  intro bytes rest a' h
  cases h
  exact ⟨[], rfl, needs_pure a⟩

theorem definite_throw (fault : Fault) : Definite (throw fault : Reader α) := by
  intro bytes rest a h
  cases h

theorem definite_lift (x : Except Fault α) : Definite (liftM x : Reader α) := by
  cases x with
  | error fault => exact definite_throw fault
  | ok a => exact definite_pure a

theorem Needs.bind {r : Reader α} {f : α → Reader β} {used used' : List UInt8} {a : α} {b : β}
    (h : Needs r used a) (h' : Needs (f a) used' b) : Needs (r >>= f) (used ++ used') b := by
  refine ⟨h.reads.bind h'.reads, fun j hj => ?_⟩
  rw [StateT.run_bind, List.take_append]
  rcases Nat.lt_or_ge j used.length with hlt | hge
  · -- the first reader runs out of bytes
    rw [Nat.sub_eq_zero_of_le hlt.le, List.take_zero, List.append_nil, h.short j hlt]
    rfl
  · -- the first reader has all it needs, and the second one runs out
    rw [List.take_of_length_le hge, h.reads]
    rw [List.length_append] at hj
    exact h'.short (j - used.length) (by omega)

theorem Definite.bind {r : Reader α} {f : α → Reader β} (h : Definite r)
    (h' : ∀ a, Definite (f a)) : Definite (r >>= f) := by
  intro bytes rest b hrun
  rw [StateT.run_bind] at hrun
  obtain ⟨⟨a, rest'⟩, hr, hf⟩ := bind_eq_ok_iff.1 hrun
  obtain ⟨used, rfl, hused⟩ := h bytes rest' a hr
  obtain ⟨used', rfl, hused'⟩ := h' a rest' rest b hf
  exact ⟨used ++ used', by rw [List.append_assoc], hused.bind hused'⟩

theorem definite_take (n : Nat) : Definite (take n) := by
  intro bytes rest taken h
  have hrun : ∀ bytes : List UInt8, (take n).run bytes =
      if n ≤ bytes.length then .ok (bytes.take n, bytes.drop n) else .error .unexpectedEnd :=
    fun _ => rfl
  rw [hrun] at h
  split at h
  · rename_i hn
    cases h
    have hlen : (bytes.take n).length = n := List.length_take_of_le hn
    have hreads := reads_take (bytes.take n)
    rw [hlen] at hreads
    refine ⟨bytes.take n, (List.take_append_drop n bytes).symm, hreads, fun j hj => ?_⟩
    rw [hlen] at hj
    rw [hrun, if_neg]
    rw [List.length_take]
    omega
  · cases h

theorem definite_skip (n : Nat) : Definite (skip n) :=
  (definite_take n).bind fun _ => definite_pure ()

theorem definite_u1 : Definite u1 := (definite_take 1).bind fun _ => definite_pure _

theorem definite_u2 : Definite u2 := (definite_take 2).bind fun _ => definite_pure _

theorem definite_u4 : Definite u4 := (definite_take 4).bind fun _ => definite_pure _

theorem definite_times (n : Nat) {r : Reader α} (h : Definite r) : Definite (times n r) := by
  induction n with
  | zero => exact definite_pure []
  | succ n ih => exact h.bind fun a => ih.bind fun as => definite_pure (a :: as)

end Reader

open Reader

/-- Each kind of constant ends in a step that takes bytes or in a fault. -/
theorem definite_readConstant : Definite ConstantPool.readConstant := by
  refine definite_u1.bind fun tag => ?_
  split
  · refine definite_u2.bind fun size => (definite_take size.toNat).bind fun bytes => ?_
    split
    · exact definite_pure _
    · exact definite_throw _
  · exact definite_u2.bind fun _ => definite_pure _
  · exact (definite_skip 8).bind fun _ => definite_pure _
  · exact (definite_skip 8).bind fun _ => definite_pure _
  · split
    · exact (definite_skip _).bind fun _ => definite_pure _
    · exact definite_throw _

/-- **The constants.** How many indices are left after a constant depends on what was read of it. -/
theorem definite_readSlots (slots : Nat) : Definite (ConstantPool.readSlots slots) := by
  fun_induction ConstantPool.readSlots slots with
  | case1 => exact definite_pure []
  | case2 => exact definite_readConstant
  | case3 slots ih ih' =>
    refine definite_readConstant.bind fun entry => ?_
    split
    · exact ih.bind fun rest => definite_pure _
    · exact ih'.bind fun rest => definite_pure _

theorem definite_readPool : Definite ConstantPool.read :=
  definite_u2.bind fun _ => (definite_readSlots _).bind fun _ => definite_pure _

theorem definite_skipAttributes (count : UInt16) : Definite (skipAttributes count) :=
  (definite_times count.toNat
    (definite_u2.bind fun _ => definite_u4.bind fun size => definite_skip size.toNat)).bind
    fun _ => definite_pure ()

theorem definite_skipField : Definite skipField :=
  (definite_skip 6).bind fun _ => definite_u2.bind fun count => definite_skipAttributes count

/-- **A method.** The look-ups of its name and types take no bytes, and what they find does not depend
on the bytes behind. -/
theorem definite_readMethod (pool : ConstantPool) : Definite (readMethod pool) :=
  definite_u2.bind fun _ => definite_u2.bind fun _ => definite_u2.bind fun _ =>
    definite_u2.bind fun count => (definite_lift _).bind fun _ => (definite_lift _).bind fun _ =>
    (definite_lift _).bind fun _ => (definite_skipAttributes count).bind fun _ => definite_pure _

/-- **A whole class file.** The name of the class is looked up last, when nothing is left to be read. -/
theorem definite_read : Definite ClassFile.read := by
  refine definite_u4.bind fun word => ?_
  simp only
  split
  · exact definite_throw .badMagic
  · exact definite_u2.bind fun _ => definite_u2.bind fun _ => definite_readPool.bind fun pool =>
      definite_u2.bind fun _ => definite_u2.bind fun _ => definite_u2.bind fun _ =>
      definite_u2.bind fun _ => (definite_skip _).bind fun _ => definite_u2.bind fun _ =>
      (definite_times _ definite_skipField).bind fun _ => definite_u2.bind fun _ =>
      (definite_times _ (definite_readMethod pool)).bind fun _ => definite_u2.bind fun count =>
      (definite_skipAttributes count).bind fun _ => (definite_lift _).bind fun _ => definite_pure _

/-- **A class file is determined by a start of its bytes.** Whenever bytes are read as a class, the
first `k` of them are read as that class whatever follows, and with any of these cut off the bytes end
too early: no other fault is met, and no other class. -/
theorem parse_determined_by_start {bytes : List UInt8} {c : ClassFile} (h : parse bytes = .ok c) :
    ∃ k ≤ bytes.length, (∀ rest, parse (bytes.take k ++ rest) = .ok c) ∧
      ∀ j < k, parse (bytes.take j) = .error .unexpectedEnd := by
  obtain ⟨⟨c', rest⟩, hread, hc⟩ : ∃ result, ClassFile.read bytes = .ok result ∧ result.1 = c := by
    unfold parse at h
    cases hread : ClassFile.read bytes with
    | error fault =>
      rw [hread] at h
      cases h
    | ok result =>
      rw [hread] at h
      cases h
      exact ⟨result, rfl, rfl⟩
  cases hc
  obtain ⟨used, rfl, hneeds⟩ := definite_read bytes rest c' hread
  refine ⟨used.length, by simp, fun rest' => ?_, fun j hj => ?_⟩
  · have hrun : ClassFile.read (used ++ rest') = .ok (c', rest') := hneeds.reads rest'
    rw [List.take_left, parse, hrun]
    rfl
  · have hrun : ClassFile.read (used.take j) = .error .unexpectedEnd := hneeds.short j hj
    rw [List.take_append_of_le_length hj.le, parse, hrun]
    rfl

/-- The class of `boxLayout`. -/
def boxClass : ClassFile where
  name := "acme.Box"
  access := ⟨0x21⟩
  methods := [⟨"put", ⟨1⟩, [.array (.primitive .int) 1], .void⟩]

theorem parse_determined_by_start_box :
    let bytes := Layout.boxLayout.encode ++ [0xFF]
    parse bytes = .ok boxClass ∧
      ∃ k ≤ bytes.length, (∀ rest, parse (bytes.take k ++ rest) = .ok boxClass) ∧
        ∀ j < k, parse (bytes.take j) = .error .unexpectedEnd := by
  intro bytes
  have h : parse bytes = .ok boxClass := by decide +kernel
  exact ⟨h, parse_determined_by_start h⟩

end MemberSpec.ClassFile
