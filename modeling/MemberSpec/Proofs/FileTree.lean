import Mathlib
import MemberSpec.FileTree
import MemberSpec.Proofs.Pieces

/-!
# Where paths lead

A joined path has the names of its parts, one after the other (`Path.names_join`), and a tree is gone
through in the same way (`FileTree.follow_append`). Names that are not dots lead down, so they are the
end of the location (`FileTree.follow_eq_append`). A path that is joined to such names is below the first
one (`Path.parts_join`), and so is the file that it leads to (`FileTree.entry_of_read_join`).
-/

namespace MemberSpec

open Text

/-- The names between dividers. -/
def namesOf (cs : List Char) : List String :=
  ((splitAt (· == '/') cs).map String.ofList).filter (!·.isEmpty)

theorem namesOf_append_divider (cs ds : List Char) :
    namesOf (cs ++ '/' :: ds) = namesOf cs ++ namesOf ds := by
  unfold namesOf
  rw [splitAt_append_cons rfl, List.map_append, List.filter_append]

theorem namesOf_name {name : String} (hne : name ≠ "") (hfree : '/' ∉ name.toList) :
    namesOf name.toList = [name] := by
  have hpiece : splitAt (· == '/') name.toList = [name.toList] :=
    splitAt_of_free (beq_eq_false_of_notMem hfree)
  simp [namesOf, hpiece, String.ofList_toList, hne]

/-- Names out of a text without dots are not dots. -/
theorem ne_dots_of_mem_namesOf {cs : List Char} (hcs : '.' ∉ cs) {s : String} (h : s ∈ namesOf cs) :
    s ≠ "." ∧ s ≠ ".." := by
  obtain ⟨hmem, -⟩ := List.mem_filter.1 h
  obtain ⟨piece, hpiece, rfl⟩ := List.mem_map.1 hmem
  have hdot : '.' ∉ (String.ofList piece).toList := by
    rw [String.toList_ofList]
    intro hdot
    exact hcs (of_mem_splitAt hpiece '.' hdot).1
  constructor <;> intro hs <;> rw [hs] at hdot <;> exact hdot (by decide)

namespace Path

/-- The names in a path. -/
def names (p : Path) : List String := namesOf p.text.toList

variable {p : Path} {q : String}

/-- What joining does, if the second path does not start at the root: there is a divider in between,
unless nothing or a divider is there already. -/
theorem text_join_cases (hq : q.toList.head? ≠ some '/') :
    (p.text.toList = [] ∧ (p.join q).text.toList = q.toList) ∨
      (∃ cs, p.text.toList = cs ++ ['/'] ∧ (p.join q).text.toList = cs ++ '/' :: q.toList) ∨
      (p.text.toList ≠ [] ∧ (p.join q).text.toList = p.text.toList ++ '/' :: q.toList) := by
  unfold join
  rw [if_neg (by simpa using hq)]
  rcases eq_or_ne p.text.toList [] with hempty | hne
  · have htext : p.text = "" := String.toList_eq_nil_iff.1 hempty
    exact .inl ⟨hempty, by simp [htext]⟩
  have hempty : p.text.isEmpty = false := by
    rw [String.isEmpty_eq_false_iff]
    intro h
    exact hne (by simp [h])
  by_cases hlast : p.text.toList.getLast? = some '/'
  · obtain ⟨cs, hcs⟩ := List.getLast?_eq_some_iff.1 hlast
    refine .inr (.inl ⟨cs, hcs, ?_⟩)
    simp [hcs]
  · refine .inr (.inr ⟨hne, ?_⟩)
    simp [hempty, hlast]

/-- **The names of a joined path** are those of its parts. -/
theorem names_join (hq : q.toList.head? ≠ some '/') :
    (p.join q).names = p.names ++ namesOf q.toList := by
  unfold names
  rcases text_join_cases (p := p) hq with ⟨hp, hj⟩ | ⟨cs, hp, hj⟩ | ⟨-, hj⟩
  · rw [hp, hj]
    rfl
  · rw [hp, hj, namesOf_append_divider, namesOf_append_divider]
    simp [namesOf, splitAt]
  · rw [hj, namesOf_append_divider]

theorem isAbsolute_join (hq : q.toList.head? ≠ some '/') : (p.join q).isAbsolute = p.isAbsolute := by
  unfold isAbsolute
  rcases text_join_cases (p := p) hq with ⟨hp, hj⟩ | ⟨cs, hp, hj⟩ | ⟨hp, hj⟩
  · rw [hp, hj]
    simpa using hq
  · rw [hp, hj]
    cases cs <;> rfl
  · rw [hj, List.head?_append_of_ne_nil _ hp]

theorem join_rooted (hq : q.toList.head? = some '/') : p.join q = ⟨q⟩ := by
  unfold join
  rw [if_pos (by simpa using hq)]

theorem isAbsolute_join_iff :
    (p.join q).isAbsolute = true ↔ p.isAbsolute = true ∨ q.toList.head? = some '/' := by
  by_cases hq : q.toList.head? = some '/'
  · rw [join_rooted hq]
    simp [isAbsolute, hq]
  · rw [isAbsolute_join hq]
    simp [hq]

theorem isAbsolute_joinAll_iff {names : List String} :
    (p.joinAll names).isAbsolute = true ↔
      p.isAbsolute = true ∨ ∃ s ∈ names, s.toList.head? = some '/' := by
  induction names generalizing p with
  | nil => simp [joinAll]
  | cons s names ih =>
    have hcons : p.joinAll (s :: names) = (p.join s).joinAll names := rfl
    rw [hcons, ih, isAbsolute_join_iff]
    simp [or_assoc]

/-- Joining brings in no other names, whether or not it starts anew. -/
theorem mem_names_join {s : String} (h : s ∈ (p.join q).names) :
    s ∈ p.names ∨ s ∈ namesOf q.toList := by
  by_cases hq : q.toList.head? = some '/'
  · rw [join_rooted hq] at h
    exact .inr h
  · rw [names_join hq] at h
    exact List.mem_append.1 h

theorem mem_names_joinAll {names : List String} {s : String} (h : s ∈ (p.joinAll names).names) :
    s ∈ p.names ∨ ∃ name ∈ names, s ∈ namesOf name.toList := by
  induction names generalizing p with
  | nil => exact .inl h
  | cons name names ih =>
    have hcons : p.joinAll (name :: names) = (p.join name).joinAll names := rfl
    rw [hcons] at h
    rcases ih h with h | ⟨later, hlater, h⟩
    · rcases mem_names_join h with h | h
      · exact .inl h
      · exact .inr ⟨name, List.mem_cons_self, h⟩
    · exact .inr ⟨later, List.mem_cons_of_mem _ hlater, h⟩

/-- What stands before the names of a path: the root, or a dot that the path starts with. -/
def lead (p : Path) : List Part :=
  if p.isAbsolute then [.root]
  else if ((splitAt (· == '/') p.text.toList).map String.ofList).head? == some "." then [.here]
  else []

theorem parts_eq (p : Path) :
    p.parts = p.lead ++ (p.names.filter (· != ".")).map partOf := by
  unfold parts lead names namesOf
  rw [List.filter_filter]
  have hfilter : ∀ pieces : List String, (pieces.filter fun s => !s.isEmpty && s != ".") =
      pieces.filter fun s => s != "." && !s.isEmpty := by
    intro pieces
    exact List.filter_congr fun s _ => Bool.and_comm _ _
  simp only [hfilter]
  split
  · rfl
  · rfl

theorem lead_join (hq : q.toList.head? ≠ some '/') (h : p.text ≠ "" ∨ "." ∉ namesOf q.toList) :
    (p.join q).lead = p.lead := by
  unfold lead
  rw [isAbsolute_join hq]
  -- behind a divider nothing changes the first piece
  have hfirst : ∀ cs ds : List Char, (splitAt (· == '/') (cs ++ '/' :: ds)).head? =
      (splitAt (· == '/') cs).head? := by
    intro cs ds
    rw [splitAt_append_cons rfl, List.head?_append_of_ne_nil _ (splitAt_ne_nil cs)]
  rcases text_join_cases (p := p) hq with ⟨hp, hj⟩ | ⟨cs, hp, hj⟩ | ⟨-, hj⟩
  · have hdot := h.resolve_left fun hne => hne (String.toList_eq_nil_iff.1 hp)
    have hpiece : ((splitAt (· == '/') q.toList).map String.ofList).head? ≠ some "." := by
      intro hhead
      exact hdot (List.mem_filter.2 ⟨List.mem_of_head? hhead, by decide⟩)
    have hempty : ((splitAt (· == '/') []).map String.ofList).head? ≠ some "." := by decide
    rw [hp, hj]
    simp only [beq_iff_eq, hpiece, hempty, if_false]
  · rw [hp, hj, List.head?_map, List.head?_map, hfirst, hfirst]
  · rw [hj, List.head?_map, List.head?_map, hfirst]

/-- The parts of a joined path: what is joined adds its names, except those that lead nowhere. -/
theorem parts_join_eq (hq : q.toList.head? ≠ some '/')
    (h : p.text ≠ "" ∨ "." ∉ namesOf q.toList) :
    (p.join q).parts = p.parts ++ ((namesOf q.toList).filter (· != ".")).map partOf := by
  rw [parts_eq, parts_eq, lead_join hq h, names_join hq, List.filter_append, List.map_append,
    List.append_assoc]

/-- **Names that are not dots** are the last parts of the path that they are joined to. -/
theorem parts_join (hq : q.toList.head? ≠ some '/')
    (hnames : ∀ s ∈ namesOf q.toList, s ≠ "." ∧ s ≠ "..") :
    (p.join q).parts = p.parts ++ (namesOf q.toList).map .name := by
  have hdot : "." ∉ namesOf q.toList := fun h => (hnames "." h).1 rfl
  have hall : (namesOf q.toList).filter (· != ".") = namesOf q.toList :=
    List.filter_eq_self.2 fun s hs => by simpa using (hnames s hs).1
  have hparts : (namesOf q.toList).map partOf = (namesOf q.toList).map .name := by
    refine List.map_congr_left fun s hs => ?_
    obtain ⟨hs1, hs2⟩ := hnames s hs
    simp [partOf, hs1, hs2]
  rw [parts_join_eq hq (.inr hdot), hall, hparts]

theorem root_mem_parts_iff : .root ∈ p.parts ↔ p.isAbsolute = true := by
  have hpart : ∀ s, partOf s ≠ .root := by
    intro s
    unfold partOf
    split
    · simp
    · split <;> simp
  rw [parts_eq, List.mem_append]
  constructor
  · rintro (h | h)
    · unfold lead at h
      split at h
      · assumption
      · split at h <;> simp at h
    · obtain ⟨s, -, hs⟩ := List.mem_map.1 h
      exact absurd hs (hpart s)
  · intro h
    left
    simp [lead, h]

/-- The path has the parts of `base`, and then names of which none leads up. -/
def Below (p base : Path) : Prop :=
  ∃ names : List String, ".." ∉ names ∧ p.parts = base.parts ++ names.map .name

theorem Below.isAbsolute_iff {base : Path} (h : p.Below base) :
    p.isAbsolute = true ↔ base.isAbsolute = true := by
  obtain ⟨names, -, hparts⟩ := h
  rw [← root_mem_parts_iff, ← root_mem_parts_iff, hparts, List.mem_append]
  simp

theorem getLast?_join (hq : q.toList.head? ≠ some '/') (hne : q ≠ "") :
    (p.join q).text.toList.getLast? = q.toList.getLast? := by
  have hne' : q.toList ≠ [] := fun h => hne (String.toList_eq_nil_iff.1 h)
  rcases text_join_cases (p := p) hq with ⟨-, hj⟩ | ⟨cs, -, hj⟩ | ⟨-, hj⟩
  · rw [hj]
  · rw [hj, List.getLast?_append_of_ne_nil _ (by simp), List.getLast?_cons_of_ne_nil hne']
  · rw [hj, List.getLast?_append_of_ne_nil _ (by simp), List.getLast?_cons_of_ne_nil hne']

theorem head?_ne_of_free {name : String} (hfree : '/' ∉ name.toList) :
    name.toList.head? ≠ some '/' :=
  fun h => hfree (List.mem_of_head? h)

/-- Names that are joined in a row are the last names of the path. -/
theorem names_joinAll {names : List String} (hnames : ∀ s ∈ names, s ≠ "" ∧ '/' ∉ s.toList) :
    (p.joinAll names).names = p.names ++ names ∧ (p.joinAll names).isAbsolute = p.isAbsolute := by
  induction names generalizing p with
  | nil => simp [joinAll]
  | cons s names ih =>
    obtain ⟨hne, hfree⟩ := hnames s List.mem_cons_self
    obtain ⟨hrest, habsolute⟩ := ih (p := p.join s) fun s hs => hnames s (List.mem_cons_of_mem _ hs)
    have hhead := head?_ne_of_free hfree
    have hcons : p.joinAll (s :: names) = (p.join s).joinAll names := rfl
    rw [hcons, hrest, habsolute, names_join hhead, isAbsolute_join hhead, namesOf_name hne hfree]
    simp

end Path

namespace FileTree

variable {t : FileTree} {p : Path}

/-- A path that does not end in a divider is gone through by its names. -/
theorem steps_eq_names (hlast : p.text.toList.getLast? ≠ some '/') : steps p = p.names := by
  have hnot : ¬ (((splitAt (· == '/') p.text.toList).map String.ofList).length > 1 ∧
      ((splitAt (· == '/') p.text.toList).map String.ofList).getLast? = some "") := by
    rintro ⟨hlength, hend⟩
    rw [List.getLast?_map, getLast?_splitAt, Option.map_some, Option.some_inj] at hend
    have hend : lastPiece (· == '/') p.text.toList = [] := by
      simpa using congrArg String.toList hend
    -- an empty last piece means an empty path, which is one piece, or a divider at the end
    obtain ⟨-, hall | ⟨before, s, hs, hall⟩⟩ := lastPiece_cases (· == '/') p.text.toList
    · rw [hend] at hall
      simp [hall, splitAt] at hlength
    · rw [hend] at hall
      rw [hall, List.getLast?_concat] at hlast
      exact hlast (congrArg some (by simpa using hs))
  unfold steps Path.names namesOf
  simp only [Bool.and_eq_true, decide_eq_true_eq, beq_iff_eq, if_neg hnot]

theorem follow_append (location : Location) (xs ys : List String) :
    t.follow location (xs ++ ys) = (t.follow location xs).bind fun l => t.follow l ys := by
  induction xs generalizing location with
  | nil => rfl
  | cons x xs ih =>
    rw [List.cons_append, follow, follow]
    cases t.entry? location with
    | none => rfl
    | some e =>
      cases e with
      | file bytes => rfl
      | directory =>
        simp only
        split
        · exact ih location
        · split
          · exact ih _
          · split
            · rfl
            · exact ih _

/-- **Names that are not dots** are the end of the location that they lead to. -/
theorem follow_eq_append {names : List String} (hnames : ∀ s ∈ names, s ≠ "." ∧ s ≠ "..")
    {base location : Location} (h : t.follow base names = .ok location) :
    location = base ++ names := by
  induction names generalizing base with
  | nil =>
    cases h
    rw [List.append_nil]
  | cons s names ih =>
    obtain ⟨hdot, hdots⟩ := hnames s List.mem_cons_self
    rw [follow] at h
    split at h
    · cases h
    · cases h
    · rw [if_neg (by simpa using hdot), if_neg (by simpa using hdots)] at h
      split at h
      · cases h
      · rw [ih (fun s hs => hnames s (List.mem_cons_of_mem _ hs)) h]
        simp

theorem mem_entries_of_entry? {location : Location} {bytes : List UInt8}
    (h : t.entry? location = some (.file bytes)) : (location, .file bytes) ∈ t.entries := by
  unfold entry? at h
  split at h
  · cases h
  · obtain ⟨⟨location', e⟩, hfind, rfl⟩ := Option.map_eq_some_iff.1 h
    have hlocation : location' = location := by simpa using List.find?_some hfind
    exact hlocation ▸ List.mem_of_find?_eq_some hfind

/-- What is read at a path is a file at the location that the path leads to. -/
theorem entry_of_read {bytes : List UInt8} (h : t.read p = .ok bytes) :
    ∃ location, t.follow (if p.isAbsolute then [] else t.here) (steps p) = .ok location ∧
      (location, .file bytes) ∈ t.entries := by
  cases hlocate : t.locate p with
  | error fault =>
    simp only [read, find, hlocate] at h
    cases h
  | ok location =>
    have hfollow : t.follow (if p.isAbsolute then [] else t.here) (steps p) = .ok location := by
      unfold locate at hlocate
      split at hlocate
      · cases hlocate
      · split at hlocate
        · cases hlocate
        · split at hlocate
          · cases hlocate
          · exact hlocate
    refine ⟨location, hfollow, ?_⟩
    simp only [read, find, hlocate] at h
    cases hentry : t.entry? location with
    | none =>
      simp only [bind, Except.bind, hentry] at h
      cases h
    | some e =>
      cases e with
      | directory =>
        simp only [bind, Except.bind, hentry] at h
        cases h
      | file found =>
        simp only [bind, Except.bind, hentry] at h
        cases h
        exact mem_entries_of_entry? hentry

/-- **What is read below a path** is a file below the location of that path. -/
theorem entry_of_read_join {base : Path} {q : String} {bytes : List UInt8}
    (hq : q.toList.head? ≠ some '/') (hlast : q.toList.getLast? ≠ some '/') (hne : q ≠ "")
    (hnames : ∀ s ∈ namesOf q.toList, s ≠ "." ∧ s ≠ "..") (h : t.read (base.join q) = .ok bytes) :
    ∃ location,
      t.follow (if base.isAbsolute then [] else t.here) base.names = .ok location ∧
      (location ++ namesOf q.toList, .file bytes) ∈ t.entries := by
  obtain ⟨place, hfollow, hmem⟩ := entry_of_read h
  have hsteps : steps (base.join q) = base.names ++ namesOf q.toList := by
    rw [steps_eq_names (by rwa [Path.getLast?_join hq hne]), Path.names_join hq]
  rw [hsteps, Path.isAbsolute_join hq, follow_append] at hfollow
  cases hbase : t.follow (if base.isAbsolute then [] else t.here) base.names with
  | error fault =>
    rw [hbase] at hfollow
    cases hfollow
  | ok location =>
    rw [hbase] at hfollow
    have hplace : place = location ++ namesOf q.toList := follow_eq_append hnames hfollow
    exact ⟨location, rfl, hplace ▸ hmem⟩

end FileTree

end MemberSpec
