import Mathlib
import MemberSpec.Proofs.FileTree

/-!
# Files under a directory

A walk lists the files under a root by the names that lead to them. Joined to the root, these names are
a path, and a tree in which every entry is in a directory has the file at that path; at most the path is
too long to be followed (`IsProper.locate_of_mem_filesUnder`). The other way round, a walk misses no file
that names lead to from the root (`listsAll`), unless the root is the empty path, which
is not the path of a directory and is not walked at all.
-/

namespace MemberSpec

open Text

/-- A name that a file or a directory can have. -/
structure IsFileName (s : String) : Prop where
  ne_empty : s ≠ ""
  ne_dot : s ≠ "."
  ne_dots : s ≠ ".."
  slash_free : '/' ∉ s.toList

instance : DecidablePred IsFileName := fun s =>
  decidable_of_iff (s ≠ "" ∧ s ≠ "." ∧ s ≠ ".." ∧ '/' ∉ s.toList)
    ⟨fun h => ⟨h.1, h.2.1, h.2.2.1, h.2.2.2⟩, fun h => ⟨h.1, h.2, h.3, h.4⟩⟩

theorem IsFileName.namesOf {s : String} (h : IsFileName s) : namesOf s.toList = [s] :=
  namesOf_name h.ne_empty h.slash_free

theorem IsFileName.head? {s : String} (h : IsFileName s) : s.toList.head? ≠ some '/' :=
  Path.head?_ne_of_free h.slash_free

namespace Path

variable {p : Path} {names : List String}

theorem joinAll_append (p : Path) (xs ys : List String) :
    p.joinAll (xs ++ ys) = (p.joinAll xs).joinAll ys :=
  List.foldl_append

theorem joinAll_concat (p : Path) (xs : List String) (y : String) :
    p.joinAll (xs ++ [y]) = (p.joinAll xs).join y :=
  joinAll_append p xs [y]

theorem exists_text_join {q : String} (hq : q.toList.head? ≠ some '/') :
    ∃ rest, (p.join q).text = p.text ++ rest := by
  unfold join
  rw [if_neg (by simpa using hq)]
  split
  · exact ⟨q, rfl⟩
  · exact ⟨"/" ++ q, String.append_assoc⟩

/-- What is joined in a row adds the names in it, except those that lead nowhere. -/
theorem parts_joinAll (hhead : ∀ s ∈ names, s.toList.head? ≠ some '/')
    (h : p.text ≠ "" ∨ ∀ s ∈ names, "." ∉ namesOf s.toList) :
    (p.joinAll names).parts =
      p.parts ++ ((names.flatMap fun s => namesOf s.toList).filter (· != ".")).map partOf := by
  induction names generalizing p with
  | nil => simp [joinAll]
  | cons s names ih =>
    have hs := hhead s List.mem_cons_self
    have hjoin := parts_join_eq (p := p) hs (h.imp_right fun h => h s List.mem_cons_self)
    have hnext : (p.join s).text ≠ "" ∨ ∀ s ∈ names, "." ∉ namesOf s.toList := by
      refine h.imp (fun hp hempty => hp ?_) fun h s hs => h s (List.mem_cons_of_mem _ hs)
      obtain ⟨more, hmore⟩ := exists_text_join (p := p) hs
      simp [hmore] at hempty
      exact hempty.1
    have hrest := ih (p := p.join s) (fun s hs => hhead s (List.mem_cons_of_mem _ hs)) hnext
    have hcons : p.joinAll (s :: names) = (p.join s).joinAll names := rfl
    rw [hcons, hrest, hjoin, List.flatMap_cons, List.filter_append, List.map_append,
      List.append_assoc]

theorem parts_joinAll_names (hnames : ∀ s ∈ names, IsFileName s) :
    (p.joinAll names).parts = p.parts ++ names.map .name := by
  have hself : (names.flatMap fun s => namesOf s.toList) = names := by
    rw [List.flatMap_congr fun s hs => (hnames s hs).namesOf]
    simp
  have hdot : ∀ s ∈ names, "." ∉ namesOf s.toList := by
    intro s hs hmem
    rw [(hnames s hs).namesOf, List.mem_singleton] at hmem
    exact (hnames s hs).ne_dot hmem.symm
  have hall : names.filter (· != ".") = names :=
    List.filter_eq_self.2 fun s hs => by simpa using (hnames s hs).ne_dot
  have hparts : names.map partOf = names.map .name := by
    refine List.map_congr_left fun s hs => ?_
    simp [partOf, (hnames s hs).ne_dot, (hnames s hs).ne_dots]
  rw [parts_joinAll (fun s hs => (hnames s hs).head?) (.inr hdot), hself, hall, hparts]

theorem getLast?_joinAll (hne : names ≠ []) (hnames : ∀ s ∈ names, IsFileName s) :
    (p.joinAll names).text.toList.getLast? ≠ some '/' := by
  obtain ⟨first, last, rfl⟩ := List.eq_nil_or_concat names |>.resolve_left hne
  have hlast := hnames last (by simp)
  rw [List.concat_eq_append, joinAll_concat, getLast?_join hlast.head? hlast.ne_empty]
  exact fun h => hlast.slash_free (List.mem_of_getLast? h)

/-- A joined path goes on from the path that it starts with. -/
theorem exists_text_joinAll (hnames : ∀ s ∈ names, IsFileName s) :
    ∃ rest, (p.joinAll names).text = p.text ++ rest := by
  induction names generalizing p with
  | nil => exact ⟨"", by simp [joinAll]⟩
  | cons s names ih =>
    obtain ⟨rest, hrest⟩ := ih (p := p.join s) fun s hs => hnames s (List.mem_cons_of_mem _ hs)
    obtain ⟨more, hmore⟩ := exists_text_join (p := p) (hnames s List.mem_cons_self).head?
    have hcons : p.joinAll (s :: names) = (p.join s).joinAll names := rfl
    exact ⟨more ++ rest, by rw [hcons, hrest, hmore, String.append_assoc]⟩

end Path

namespace FileTree

variable {t : FileTree} {root : Path} {base location : Location} {names : List String}

/-- Where a path starts from. -/
def startOf (t : FileTree) (p : Path) : Location := if p.isAbsolute then [] else t.here

theorem locate_eq {p : Path} (hnul : Char.ofNat 0 ∉ p.text.toList) (hempty : p.text ≠ "")
    (hlong : p.text.utf8ByteSize ≤ longestPath) : t.locate p = t.follow (t.startOf p) (steps p) := by
  unfold locate startOf
  rw [if_neg (by simpa using hnul), if_neg (by simpa using hempty), if_neg (by omega)]

theorem of_locate {p : Path} (h : t.locate p = .ok location) :
    Char.ofNat 0 ∉ p.text.toList ∧ p.text ≠ "" ∧ p.text.utf8ByteSize ≤ longestPath ∧
      t.follow (t.startOf p) (steps p) = .ok location := by
  unfold locate at h
  split at h
  · cases h
  split at h
  · cases h
  split at h
  · cases h
  rename_i hnul hempty hlong
  exact ⟨by simpa using hnul, by simpa using hempty, by omega, h⟩

/-- A path is gone through by its names, and a divider at its end asks for a directory. -/
theorem steps_cases (p : Path) : steps p = p.names ∨ steps p = p.names ++ ["."] := by
  unfold steps Path.names namesOf
  simp only
  split
  · exact .inr rfl
  · exact .inl rfl

theorem follow_names_of_locate (h : t.locate root = .ok base) :
    t.follow (t.startOf root) root.names = .ok base := by
  obtain ⟨-, -, -, hfollow⟩ := of_locate h
  rcases steps_cases root with hsteps | hsteps
  · rwa [hsteps] at hfollow
  rw [hsteps, follow_append] at hfollow
  cases hnames : t.follow (t.startOf root) root.names with
  | error fault =>
    rw [hnames] at hfollow
    cases hfollow
  | ok place =>
    rw [hnames] at hfollow
    change t.follow place ["."] = .ok base at hfollow
    rw [follow] at hfollow
    split at hfollow
    · cases hfollow
    · cases hfollow
    · exact hfollow

theorem locate_of_follow_names (hnul : Char.ofNat 0 ∉ root.text.toList) (hempty : root.text ≠ "")
    (hlong : root.text.utf8ByteSize ≤ longestPath)
    (hfollow : t.follow (t.startOf root) root.names = .ok base)
    (hdirectory : t.entry? base = some .directory) : t.locate root = .ok base := by
  rw [locate_eq hnul hempty hlong]
  rcases steps_cases root with hsteps | hsteps
  · rw [hsteps, hfollow]
  · rw [hsteps, follow_append, hfollow]
    change t.follow base ["."] = .ok base
    rw [follow, hdirectory]
    rfl

theorem follow_step {name : String} {rest : List String} (hname : IsFileName name)
    (hdirectory : t.entry? base = some .directory) :
    t.follow base (name :: rest) =
      if name.utf8ByteSize > longestName then .error .nameTooLong
      else t.follow (base ++ [name]) rest := by
  rw [follow, hdirectory]
  simp only
  rw [if_neg (by simpa using hname.ne_dot), if_neg (by simpa using hname.ne_dots)]

/-- Names lead down through directories, unless one of them is too long. -/
theorem follow_down (hnames : ∀ s ∈ names, IsFileName s)
    (hdirectories : ∀ n < names.length, t.entry? (base ++ names.take n) = some .directory) :
    t.follow base names = .ok (base ++ names) ∨ t.follow base names = .error .nameTooLong := by
  induction names generalizing base with
  | nil => exact .inl (by rw [follow, List.append_nil])
  | cons name names ih =>
    have hfirst : t.entry? base = some .directory := by
      simpa using hdirectories 0 (by simp)
    rw [follow_step (hnames name List.mem_cons_self) hfirst]
    split
    · exact .inr rfl
    have hbelow : ∀ n < names.length,
        t.entry? (base ++ [name] ++ names.take n) = some .directory := by
      intro n hn
      have := hdirectories (n + 1) (by simpa using hn)
      simpa using this
    have hrest := ih (fun s hs => hnames s (List.mem_cons_of_mem _ hs)) hbelow
    simpa using hrest

theorem directory_of_follow_cons {name : String} {rest : List String}
    (h : t.follow base (name :: rest) = .ok location) : t.entry? base = some .directory := by
  rw [follow] at h
  split at h
  · cases h
  · cases h
  · assumption

theorem mem_filesUnder_iff :
    location ∈ t.filesUnder root ↔ location ≠ [] ∧
      ∃ base bytes, t.locate root = .ok base ∧ (base ++ location, .file bytes) ∈ t.entries := by
  unfold filesUnder
  cases hroot : t.locate root with
  | error fault => simp
  | ok base =>
    simp only [List.mem_filterMap, Prod.exists]
    constructor
    · rintro ⟨place, e, hmem, h⟩
      split at h
      · rename_i hcond
        simp only [Bool.and_eq_true, bne_iff_ne, ne_eq, decide_eq_true_eq] at hcond
        obtain ⟨⟨hfile, hstart⟩, hlength⟩ := hcond
        obtain ⟨rest, rfl⟩ := List.isPrefixOf_iff_prefix.1 hstart
        rw [List.drop_left, Option.some_inj] at h
        subst h
        refine ⟨fun hnil => by simp [hnil] at hlength, base, ?_⟩
        cases e with
        | directory => exact absurd rfl hfile
        | file bytes => exact ⟨bytes, rfl, hmem⟩
      · cases h
    · rintro ⟨hne, base', bytes, hbase, hmem⟩
      cases hbase
      have hpos : 0 < location.length := List.length_pos_iff.2 hne
      refine ⟨base ++ location, .file bytes, hmem, ?_⟩
      have hstart : base.isPrefixOf (base ++ location) = true :=
        List.isPrefixOf_iff_prefix.2 (List.prefix_append _ _)
      simp [hstart, hpos]

/-- A file that a path leads to. -/
theorem of_isFile {p : Path} (h : t.isFile p = true) :
    ∃ place bytes, t.locate p = .ok place ∧ t.entry? place = some (.file bytes) := by
  unfold isFile find at h
  cases hlocate : t.locate p with
  | error fault => simp [hlocate, bind, Except.bind] at h
  | ok place =>
    cases hentry : t.entry? place with
    | none => simp [hlocate, hentry, bind, Except.bind, throw, throwThe, MonadExceptOf.throw] at h
    | some e =>
      cases e with
      | directory => simp [hlocate, hentry, bind, Except.bind, pure, Except.pure] at h
      | file bytes => exact ⟨place, bytes, rfl, hentry⟩

/-- A walk lists every file that names lead to from its root. -/
def ListsAll (t : FileTree) (root : Path) : Prop :=
  ∀ names : List String, names ≠ [] → (∀ s ∈ names, IsFileName s) →
    t.isFile (root.joinAll names) = true → names ∈ t.filesUnder root

/-- **A walk misses no file**, if it can start at all: the empty path is not a directory. -/
theorem listsAll (t : FileTree) (hroot : root.text ≠ "") : t.ListsAll root := by
  intro names hne hnames h
  obtain ⟨place, bytes, hlocate, hentry⟩ := of_isFile h
  obtain ⟨hnul, -, hlong, hfollow⟩ := of_locate hlocate
  have hfree : ∀ s ∈ names, s ≠ "" ∧ '/' ∉ s.toList := fun s hs =>
    ⟨(hnames s hs).ne_empty, (hnames s hs).slash_free⟩
  obtain ⟨hall, habsolute⟩ := Path.names_joinAll (p := root) hfree
  have hstart : t.startOf (root.joinAll names) = t.startOf root := by
    unfold startOf
    rw [habsolute]
  rw [hstart, steps_eq_names (Path.getLast?_joinAll hne hnames), hall, follow_append] at hfollow
  cases hbase : t.follow (t.startOf root) root.names with
  | error fault =>
    rw [hbase] at hfollow
    cases hfollow
  | ok base =>
    rw [hbase] at hfollow
    change t.follow base names = .ok place at hfollow
    have hplace : place = base ++ names :=
      follow_eq_append (fun s hs => ⟨(hnames s hs).ne_dot, (hnames s hs).ne_dots⟩) hfollow
    have hdirectory : t.entry? base = some .directory := by
      obtain ⟨first, rest, rfl⟩ := List.exists_cons_of_ne_nil hne
      exact directory_of_follow_cons hfollow
    -- what the longer path has to be, the root is as well
    obtain ⟨rest, htext⟩ := Path.exists_text_joinAll (p := root) hnames
    rw [htext, String.toList_append, List.mem_append, not_or] at hnul
    rw [htext, String.utf8ByteSize_append] at hlong
    have hlocateRoot : t.locate root = .ok base :=
      locate_of_follow_names hnul.1 hroot (by omega) hbase hdirectory
    refine mem_filesUnder_iff.2 ⟨hne, base, bytes, hlocateRoot, ?_⟩
    rw [← hplace]
    exact mem_entries_of_entry? hentry

/-- A tree as a file system has it: entries have names, no two are at one place, and each is in
directories. -/
structure IsProper (t : FileTree) : Prop where
  names : ∀ entry ∈ t.entries, ∀ s ∈ entry.1, IsFileName s
  unique : (t.entries.map (·.1)).Nodup
  parents : ∀ entry ∈ t.entries, ∀ n < entry.1.length, t.entry? (entry.1.take n) = some .directory

theorem IsProper.entry?_of_mem (h : t.IsProper) {e : Entry} (hne : location ≠ [])
    (hmem : (location, e) ∈ t.entries) : t.entry? location = some e := by
  unfold entry?
  rw [if_neg (by simpa using hne)]
  cases hfind : t.entries.find? (·.1 == location) with
  | none => exact absurd (List.find?_eq_none.1 hfind _ hmem) (by simp)
  | some found =>
    have hplace : found.1 = location := by simpa using List.find?_some hfind
    have hfound := List.mem_of_find?_eq_some hfind
    have hsame := List.inj_on_of_nodup_map h.unique hfound hmem hplace
    rw [hsame]
    rfl

/-- The path to a file that a walk lists leads to its place. At most the path is too long, or it has a
character that no path may have. -/
theorem IsProper.locate_of_mem_filesUnder (h : t.IsProper) (hmem : location ∈ t.filesUnder root) :
    (∃ place bytes, t.locate (root.joinAll location) = .ok place ∧
        t.entry? place = some (.file bytes)) ∨
      t.locate (root.joinAll location) = .error .nameTooLong ∨
      t.locate (root.joinAll location) = .error .nameWithNul := by
  obtain ⟨hne, base, bytes, hroot, hentry⟩ := mem_filesUnder_iff.1 hmem
  have hnames : ∀ s ∈ location, IsFileName s := fun s hs =>
    h.names _ hentry s (List.mem_append_right _ hs)
  have hdown : t.follow base location = .ok (base ++ location) ∨
      t.follow base location = .error .nameTooLong := by
    refine follow_down hnames fun n hn => ?_
    have hparent := h.parents _ hentry (base.length + n) (by
      rw [List.length_append]
      omega)
    rwa [List.take_length_add_append] at hparent
  have hfollow : t.follow (t.startOf (root.joinAll location)) (steps (root.joinAll location)) =
      t.follow base location := by
    obtain ⟨hall, habsolute⟩ := Path.names_joinAll (p := root) fun s hs =>
      ⟨(hnames s hs).ne_empty, (hnames s hs).slash_free⟩
    rw [startOf, habsolute, steps_eq_names (Path.getLast?_joinAll hne hnames), hall, follow_append,
      ← startOf, follow_names_of_locate hroot]
    rfl
  by_cases hnul : Char.ofNat 0 ∈ (root.joinAll location).text.toList
  · right; right
    unfold locate
    rw [if_pos (by simpa using hnul)]
  have hempty : (root.joinAll location).text ≠ "" := by
    obtain ⟨rest, htext⟩ := Path.exists_text_joinAll (p := root) hnames
    obtain ⟨-, hrootText, -, -⟩ := of_locate hroot
    rw [htext]
    simp [hrootText]
  by_cases hlong : (root.joinAll location).text.utf8ByteSize ≤ longestPath
  · rw [locate_eq hnul hempty hlong, hfollow]
    rcases hdown with hdown | hdown
    · exact .inl ⟨_, bytes, hdown, h.entry?_of_mem (by simp [hne]) hentry⟩
    · exact .inr (.inl hdown)
  · right; left
    unfold locate
    rw [if_neg (by simpa using hnul), if_neg (by simpa using hempty), if_pos (by omega)]

/-- **What a walk lists is there**: a file that is listed is not missing when it is read. -/
theorem IsProper.readText_of_mem_filesUnder (h : t.IsProper) (hmem : location ∈ t.filesUnder root) :
    t.readText (root.joinAll location) ≠ .error .notFound := by
  rcases h.locate_of_mem_filesUnder hmem with ⟨place, bytes, hplace, hentry⟩ | hplace | hplace
  · have hread : t.read (root.joinAll location) = .ok bytes := by
      simp only [read, find, hplace, hentry, bind, Except.bind, pure, Except.pure]
    simp only [readText, hread, bind, Except.bind]
    split <;> simp [pure, Except.pure, throw, throwThe, MonadExceptOf.throw]
  · simp [readText, read, find, hplace, bind, Except.bind]
  · simp [readText, read, find, hplace, bind, Except.bind]

end FileTree

end MemberSpec
