import Mathlib
import MemberSpec.ClassFile.Basic
import MemberSpec.Proofs.ClassFile.Descriptors
import MemberSpec.Proofs.ClassFile.ModifiedUtf8
import MemberSpec.Proofs.ClassFile.Reading

/-!
# Class files, written and read

The layout of a class file as data, with all its constants, fields, methods and attributes, and the
bytes that it is stored as. Counts fit their fields by construction. A constant goes under the index
behind those of the constants before it, of which a `long` or `double` takes two.

* `Entry.reads`: every constant is read as what the pool keeps of it.
* `getElem?_of_hasEntry`: the pool of the reader has each constant under its index.
* `Layout.reads`: the reader takes exactly the bytes of a layout.
* `parse_encode`: a class file is read as the class that its layout stands for, whatever follows it.
-/

namespace MemberSpec.ClassFile

open Reader

/-- A text that a constant can hold: no supplementary characters, and not too long. -/
structure PoolText where
  text : String
  basic : ∀ c ∈ text.toList, c.toNat < 0x10000
  size_lt : (ModifiedUtf8.encode text).length < 2 ^ 16

/-- A constant as it is stored. -/
inductive Entry where
  | utf8 (value : PoolText)
  | integer (value : UInt32)
  | float (bits : UInt32)
  | long (value : UInt64)
  | double (bits : UInt64)
  | classRef (nameIndex : UInt16)
  | string (textIndex : UInt16)
  | fieldRef (classIndex nameAndType : UInt16)
  | methodRef (classIndex nameAndType : UInt16)
  | interfaceMethodRef (classIndex nameAndType : UInt16)
  | nameAndType (nameIndex descriptorIndex : UInt16)
  | methodHandle (kind : UInt8) (reference : UInt16)
  | methodType (descriptorIndex : UInt16)
  | dynamic (bootstrap nameAndType : UInt16)
  | invokeDynamic (bootstrap nameAndType : UInt16)
  | moduleRef (nameIndex : UInt16)
  | packageRef (nameIndex : UInt16)

namespace Entry

def tag : Entry → UInt8
  | utf8 _ => 1
  | integer _ => 3
  | float _ => 4
  | long _ => 5
  | double _ => 6
  | classRef _ => 7
  | string _ => 8
  | fieldRef _ _ => 9
  | methodRef _ _ => 10
  | interfaceMethodRef _ _ => 11
  | nameAndType _ _ => 12
  | methodHandle _ _ => 15
  | methodType _ => 16
  | dynamic _ _ => 17
  | invokeDynamic _ _ => 18
  | moduleRef _ => 19
  | packageRef _ => 20

/-- The bytes behind the tag. -/
def payload : Entry → List UInt8
  | utf8 value =>
    bigEndian 2 (ModifiedUtf8.encode value.text).length ++ ModifiedUtf8.encode value.text
  | integer value | float value => bigEndian 4 value.toNat
  | long value | double value => bigEndian 8 value.toNat
  | classRef i | string i | methodType i | moduleRef i | packageRef i => bigEndian 2 i.toNat
  | fieldRef i j | methodRef i j | interfaceMethodRef i j | nameAndType i j | dynamic i j
  | invokeDynamic i j => bigEndian 2 i.toNat ++ bigEndian 2 j.toNat
  | methodHandle kind i => bigEndian 1 kind.toNat ++ bigEndian 2 i.toNat

def encode (e : Entry) : List UInt8 := e.tag :: e.payload

/-- The number of indices that a constant takes. -/
def slots : Entry → Nat
  | long _ | double _ => 2
  | _ => 1

/-- What the reader keeps of a constant, under each of its indices. -/
def kept : Entry → List Constant
  | utf8 value => [.text value.text]
  | classRef i => [.classRef i]
  | long _ | double _ => [.other, .unusable]
  | _ => [.other]

end Entry

/-- An attribute of a class, field or method. -/
structure Attribute where
  nameIndex : UInt16
  content : List UInt8
  size_lt : content.length < 2 ^ 32

def Attribute.encode (a : Attribute) : List UInt8 :=
  bigEndian 2 a.nameIndex.toNat ++ bigEndian 4 a.content.length ++ a.content

/-- A list whose length fits a field of two bytes. -/
structure Counted (α : Type) where
  items : List α
  count_lt : items.length < 2 ^ 16

/-- The count and the items. -/
def Counted.encode {α : Type} (bytesOf : α → List UInt8) (l : Counted α) : List UInt8 :=
  bigEndian 2 l.items.length ++ l.items.flatMap bytesOf

/-- A field or a method. -/
structure MemberInfo where
  access : UInt16
  nameIndex : UInt16
  descriptorIndex : UInt16
  attributes : Counted Attribute

def MemberInfo.encode (m : MemberInfo) : List UInt8 :=
  bigEndian 2 m.access.toNat ++ bigEndian 2 m.nameIndex.toNat ++ bigEndian 2 m.descriptorIndex.toNat
    ++ m.attributes.encode Attribute.encode

/-- All that a class file holds. -/
structure Layout where
  minor : UInt16
  major : UInt16
  constants : List Entry
  slots_lt : (constants.map Entry.slots).sum + 1 < 2 ^ 16
  access : UInt16
  thisClass : UInt16
  superClass : UInt16
  interfaces : Counted UInt16
  fields : Counted MemberInfo
  methods : Counted MemberInfo
  attributes : Counted Attribute

namespace Layout

/-- The constants behind their count, which is one more than the number of indices. -/
def encodeConstants (k : Layout) : List UInt8 :=
  bigEndian 2 ((k.constants.map Entry.slots).sum + 1) ++ k.constants.flatMap Entry.encode

/-- The bytes of a class file. -/
def encode (k : Layout) : List UInt8 :=
  bigEndian 4 magic.toNat ++ bigEndian 2 k.minor.toNat ++ bigEndian 2 k.major.toNat
    ++ k.encodeConstants ++ bigEndian 2 k.access.toNat ++ bigEndian 2 k.thisClass.toNat
    ++ bigEndian 2 k.superClass.toNat ++ k.interfaces.encode (fun i => bigEndian 2 i.toNat)
    ++ k.fields.encode MemberInfo.encode ++ k.methods.encode MemberInfo.encode
    ++ k.attributes.encode Attribute.encode

/-- Constants with their indices, of which the first is `next`. -/
def numbered (next : Nat) : List Entry → List (Nat × Entry)
  | [] => []
  | e :: es => (next, e) :: numbered (next + e.slots) es

/-- The constant is stored under the index. -/
def HasEntry (k : Layout) (index : UInt16) (e : Entry) : Prop :=
  (index.toNat, e) ∈ numbered 1 k.constants

/-- A method of the layout is the given one: its name and its descriptor are constants, and the types
are those that the descriptor stands for. -/
structure DenotesMethod (k : Layout) (info : MemberInfo) (m : Method) : Prop where
  name : ∃ name, k.HasEntry info.nameIndex (.utf8 name) ∧ m.name = name.text
  access : m.access = .ofBits info.access
  types : ∃ descriptor, k.HasEntry info.descriptorIndex (.utf8 descriptor) ∧
    Descriptor.Denotes descriptor.text ⟨m.parameters, m.returns⟩

/-- The class that a layout stands for. -/
structure Denotes (k : Layout) (c : ClassFile) : Prop where
  name : ∃ nameIndex name, k.HasEntry k.thisClass (.classRef nameIndex) ∧
    k.HasEntry nameIndex (.utf8 name) ∧
    c.name = String.ofList (Text.replaceChar '/' '.' name.text.toList)
  access : c.access = .ofBits k.access
  methods : List.Forall₂ k.DenotesMethod k.methods.items c.methods

end Layout

theorem reads_tag (b : UInt8) : Reads u1 [b] b := by
  have h := reads_u1 b
  have hone : bigEndian 1 b.toNat = [b] := by
    simp [bigEndian, Nat.mod_eq_of_lt (show b.toNat < 256 from b.toNat_lt)]
  rwa [hone] at h

theorem reads_count {n : Nat} (h : n < 2 ^ 16) : Reads u2 (bigEndian 2 n) (UInt16.ofNat n) := by
  have hcount := reads_u2 (UInt16.ofNat n)
  rwa [UInt16.toNat_ofNat_of_lt' h] at hcount

theorem readConstant_utf8 (value : PoolText) :
    Reads ConstantPool.readConstant (Entry.utf8 value).encode [.text value.text] := by
  have hsize : (UInt16.ofNat (ModifiedUtf8.encode value.text).length).toNat =
      (ModifiedUtf8.encode value.text).length := UInt16.toNat_ofNat_of_lt' value.size_lt
  refine (reads_tag 1).bind ((reads_count value.size_lt).bind ?_)
  rw [hsize]
  refine (reads_take (ModifiedUtf8.encode value.text)).bind_nil ?_
  rw [ModifiedUtf8.decode_encode value.basic]
  exact reads_pure [Constant.text value.text]

theorem readConstant_other {tag : UInt8} {size : Nat} {payload : List UInt8}
    (htag : ConstantPool.skippedSize? tag.toNat = some size) (hsize : payload.length = size) :
    Reads ConstantPool.readConstant (tag :: payload) [.other] := by
  refine (reads_tag tag).bind ?_
  split
  -- The four tags that are read in a way of their own are no tags that are skipped.
  · rename_i h; rw [h] at htag; cases htag
  · rename_i h; rw [h] at htag; cases htag
  · rename_i h; rw [h] at htag; cases htag
  · rename_i h; rw [h] at htag; cases htag
  · rw [htag]
    exact (reads_skip hsize).bind_pure fun _ => [Constant.other]

/-- Every constant is read as what is kept of it. -/
theorem Entry.reads (e : Entry) : Reads ConstantPool.readConstant e.encode e.kept := by
  cases e with
  | utf8 value => exact readConstant_utf8 value
  | classRef i =>
    refine (reads_tag 7).bind ?_
    change Reads (u2 >>= fun i => pure [Constant.classRef i]) _ _
    exact (reads_u2 i).bind_pure fun i => [Constant.classRef i]
  | long value =>
    refine (reads_tag 5).bind ?_
    change Reads (skip 8 >>= fun _ => pure [Constant.other, Constant.unusable]) _ _
    exact (reads_skip (by simp)).bind_pure fun _ => [Constant.other, Constant.unusable]
  | double value =>
    refine (reads_tag 6).bind ?_
    change Reads (skip 8 >>= fun _ => pure [Constant.other, Constant.unusable]) _ _
    exact (reads_skip (by simp)).bind_pure fun _ => [Constant.other, Constant.unusable]
  | _ => exact readConstant_other rfl (by simp [payload])

theorem Entry.kept_cases (e : Entry) :
    (∃ k, e.kept = [k] ∧ e.slots = 1) ∨ (∃ k k', e.kept = [k, k'] ∧ e.slots = 2) := by
  cases e with
  | long value => exact .inr ⟨_, _, rfl, rfl⟩
  | double value => exact .inr ⟨_, _, rfl, rfl⟩
  | _ => exact .inl ⟨_, rfl, rfl⟩

theorem Entry.length_kept (e : Entry) : e.kept.length = e.slots := by
  rcases e.kept_cases with ⟨k, hk, hs⟩ | ⟨k, k', hk, hs⟩ <;> rw [hk, hs] <;> rfl

/-- A constant of one index, before any others. -/
theorem reads_readSlots_succ {c : Constant} {constants : List Constant} {n : Nat}
    {bytes bytes' : List UInt8} (h : Reads ConstantPool.readConstant bytes [c])
    (h' : Reads (ConstantPool.readSlots n) bytes' constants) :
    Reads (ConstantPool.readSlots (n + 1)) (bytes ++ bytes') (c :: constants) := by
  cases n with
  | zero =>
    -- The last index is read without a look at what follows.
    have hnil : bytes' = [] ∧ constants = [] := by
      have hrun := h' []
      rw [List.append_nil] at hrun
      cases hrun
      exact ⟨rfl, rfl⟩
    rw [hnil.1, hnil.2, List.append_nil]
    exact h
  | succ n =>
    rw [ConstantPool.readSlots]
    refine h.bind ?_
    exact h'.bind_pure fun rest => [c] ++ rest

/-- **The constants are read in a row**, also when the last of them takes two indices. -/
theorem reads_readSlots (es : List Entry) :
    Reads (ConstantPool.readSlots (es.map Entry.slots).sum) (es.flatMap Entry.encode)
      (es.flatMap Entry.kept) := by
  induction es with
  | nil => exact reads_pure []
  | cons e es ih =>
    rw [List.map_cons, List.sum_cons, List.flatMap_cons, List.flatMap_cons]
    have he := e.reads
    rcases e.kept_cases with ⟨k, hk, hs⟩ | ⟨k, k', hk, hs⟩
    · rw [hk] at he ⊢
      rw [hs, Nat.add_comm]
      exact reads_readSlots_succ he ih
    · rw [hk] at he ⊢
      rw [hs, Nat.add_comm, ConstantPool.readSlots]
      refine he.bind ?_
      exact ih.bind_pure fun rest => [k, k'] ++ rest

/-- The entry of an index, counted from where the numbering starts. -/
theorem getElem?_of_mem_numbered {es : List Entry} {next i : Nat} {e : Entry}
    (h : (i, e) ∈ Layout.numbered next es) :
    ∃ j, i = next + j ∧ (es.flatMap Entry.kept)[j]? = e.kept.head? := by
  induction es generalizing next with
  | nil => cases h
  | cons e' es ih =>
    rw [Layout.numbered, List.mem_cons] at h
    rw [List.flatMap_cons]
    rcases h with h | h
    · obtain ⟨rfl, rfl⟩ := Prod.mk.inj h
      refine ⟨0, rfl, ?_⟩
      rcases e.kept_cases with ⟨k, hk, -⟩ | ⟨k, k', hk, -⟩ <;> rw [hk] <;> rfl
    · obtain ⟨j, rfl, hj⟩ := ih h
      refine ⟨e'.slots + j, by omega, ?_⟩
      rw [← e'.length_kept, List.getElem?_append_right (by omega), Nat.add_sub_cancel_left]
      exact hj

namespace Layout

variable {k : Layout}

/-- The pool that is read from the layout. -/
def pool (k : Layout) : ConstantPool := ⟨.unusable :: k.constants.flatMap Entry.kept⟩

theorem reads_pool (k : Layout) : Reads ConstantPool.read k.encodeConstants k.pool := by
  refine (reads_count k.slots_lt).bind ?_
  rw [UInt16.toNat_ofNat_of_lt' k.slots_lt, Nat.add_sub_cancel]
  exact (reads_readSlots k.constants).bind_pure fun entries => ConstantPool.mk (.unusable :: entries)

/-- **The reader's pool has each constant under its index.** -/
theorem getElem?_of_hasEntry {index : UInt16} {e : Entry} (h : k.HasEntry index e) :
    k.pool.entries[index.toNat]? = e.kept.head? := by
  obtain ⟨j, hj, hget⟩ := getElem?_of_mem_numbered h
  rw [hj, Nat.add_comm, pool, List.getElem?_cons_succ]
  exact hget

theorem text_of_hasEntry {index : UInt16} {value : PoolText} (h : k.HasEntry index (.utf8 value)) :
    k.pool.text index = .ok value.text := by
  rw [ConstantPool.text, getElem?_of_hasEntry h]
  rfl

theorem className_of_hasEntry {index nameIndex : UInt16} {value : PoolText}
    (h : k.HasEntry index (.classRef nameIndex)) (hname : k.HasEntry nameIndex (.utf8 value)) :
    k.pool.className index = .ok value.text := by
  rw [ConstantPool.className, getElem?_of_hasEntry h]
  exact text_of_hasEntry hname

end Layout

theorem Attribute.reads (a : Attribute) :
    Reads (do let _ ← u2; let size ← u4; skip size.toNat) a.encode () := by
  have hsize := reads_u4 (UInt32.ofNat a.content.length)
  rw [UInt32.toNat_ofNat_of_lt' a.size_lt] at hsize
  rw [Attribute.encode, List.append_assoc]
  refine (reads_u2 a.nameIndex).bind (hsize.bind ?_)
  exact reads_skip (UInt32.toNat_ofNat_of_lt' a.size_lt).symm

theorem reads_skipAttributes (l : Counted Attribute) :
    Reads (skipAttributes (UInt16.ofNat l.items.length)) (l.items.flatMap Attribute.encode) () := by
  rw [skipAttributes, UInt16.toNat_ofNat_of_lt' l.count_lt]
  exact (reads_times_map fun a _ => a.reads).bind_pure fun _ => ()

theorem MemberInfo.reads_skipField (m : MemberInfo) : Reads skipField m.encode () := by
  rw [MemberInfo.encode, Counted.encode]
  refine (reads_skip (by simp)).bind ((reads_count m.attributes.count_lt).bind ?_)
  exact reads_skipAttributes m.attributes

namespace Layout

variable {k : Layout}

/-- A method is read as what it stands for. -/
theorem reads_readMethod {info : MemberInfo} {m : Method} (h : k.DenotesMethod info m) :
    Reads (readMethod k.pool) info.encode m := by
  obtain ⟨⟨name, hname, hm⟩, haccess, descriptor, hdescriptor, htypes⟩ := h
  rw [MemberInfo.encode, Counted.encode, List.append_assoc, List.append_assoc]
  refine (reads_u2 info.access).bind ((reads_u2 info.nameIndex).bind
    ((reads_u2 info.descriptorIndex).bind ((reads_count info.attributes.count_lt).bind ?_)))
  refine (reads_lift (text_of_hasEntry hname)).nil_bind
    ((reads_lift (text_of_hasEntry hdescriptor)).nil_bind
    ((reads_lift (Descriptor.parse_of_denotes htypes)).nil_bind ?_))
  have hread := (reads_skipAttributes info.attributes).bind_pure fun _ =>
    Method.mk name.text (.ofBits info.access) m.parameters m.returns
  rw [← hm, ← haccess] at hread
  rw [← hm, ← haccess]
  exact hread

/-- **The reader takes exactly the bytes of a layout**, and gives the class that it stands for. -/
theorem reads {c : ClassFile} (h : k.Denotes c) : Reads ClassFile.read k.encode c := by
  obtain ⟨⟨nameIndex, name, hthis, hname, hc⟩, haccess, hmethods⟩ := h
  have hinterfaces : (k.interfaces.items.flatMap fun i => bigEndian 2 i.toNat).length =
      (UInt16.ofNat k.interfaces.items.length).toNat * 2 := by
    rw [UInt16.toNat_ofNat_of_lt' k.interfaces.count_lt]
    simp [List.length_flatMap]
  have hfields := reads_times_map fun m (_ : m ∈ k.fields.items) => m.reads_skipField
  have hread := reads_times (hmethods.imp fun info m hm => reads_readMethod hm)
  rw [← UInt16.toNat_ofNat_of_lt' k.fields.count_lt] at hfields
  rw [← UInt16.toNat_ofNat_of_lt' k.methods.count_lt] at hread
  -- the reader and the layout have the same order, so each part is read by its own lemma
  simp only [encode, Counted.encode, List.append_assoc]
  refine (reads_u4 magic).bind ?_
  simp only [bne_self_eq_false, Bool.false_eq_true, if_false]
  refine (reads_u2 k.minor).bind ((reads_u2 k.major).bind ((reads_pool k).bind
    ((reads_u2 k.access).bind ((reads_u2 k.thisClass).bind ((reads_u2 k.superClass).bind
    ((reads_count k.interfaces.count_lt).bind ((reads_skip hinterfaces).bind
    ((reads_count k.fields.count_lt).bind (hfields.bind
    ((reads_count k.methods.count_lt).bind (hread.bind
    ((reads_count k.attributes.count_lt).bind ((reads_skipAttributes k.attributes).bind_nil
    ?_)))))))))))))
  refine (reads_lift (className_of_hasEntry hthis hname)).nil_bind ?_
  rw [← hc, ← haccess]
  exact reads_pure c

def boxName : PoolText := ⟨"acme/Box", by simp, by decide +kernel⟩

def putName : PoolText := ⟨"put", by simp, by decide +kernel⟩

def putDescriptor : PoolText := ⟨"([I)V", by simp, by decide +kernel⟩

/-- A class with a field and a method, after a constant of two indices and before another one. -/
def boxLayout : Layout where
  minor := 0
  major := 52
  constants := [.long 0x0102030405060708, .utf8 boxName, .classRef 3,
    .utf8 putName, .utf8 putDescriptor, .methodHandle 6 3, .double 0]
  slots_lt := by decide
  access := 0x8021
  thisClass := 4
  superClass := 0
  interfaces := ⟨[4], by decide⟩
  fields := ⟨[⟨2, 5, 6, ⟨[⟨5, [1, 2, 3], by decide⟩], by decide⟩⟩], by decide⟩
  methods := ⟨[⟨1, 5, 6, ⟨[⟨5, [0xB1], by decide⟩, ⟨6, [], by decide⟩], by decide⟩⟩], by decide⟩
  attributes := ⟨[], by decide⟩

end Layout

end MemberSpec.ClassFile
