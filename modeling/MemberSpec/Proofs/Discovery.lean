import Mathlib
import MemberSpec.Proofs.ClassPath.Layout
import MemberSpec.Proofs.Failures
import MemberSpec.Proofs.Walks
import MemberSpec.Registry

/-!
# Source files and the classes they are for

A class has a place for its source, a directory for each package (`sourcePlace`), and a source file
is taken for the class that its directories and its stem spell (`classNameAt_eq_some_iff`). These are
inverse to each other, but only where no directory and no stem has a dot: the name of a class has no
memory of which dots came from a name.

* `discover_sourcePath`: a class whose source is at its place is discovered.
* `discovered_source_iff`: the source of a discovered class is looked for where it was found iff its
  location is without such dots.
* `discovered_class_missed`: a class that is discovered and then not found.
-/

namespace MemberSpec

open Session Text

theorem nameParts_eq (className : String) :
    nameParts className = (nameParts className).dropLast ++
      [String.ofList (lastPiece (· == '.') className.toList)] := by
  unfold nameParts
  conv_lhs => rw [splitAt_eq_concat]
  rw [List.map_append, List.map_dropLast]
  rfl

theorem of_mem_nameParts {className s : String} (h : s ∈ nameParts className) :
    ∀ c ∈ s.toList, c ∈ className.toList ∧ c ≠ '.' := by
  intro c hc
  obtain ⟨piece, hpiece, rfl⟩ := List.mem_map.1 h
  rw [String.toList_ofList] at hc
  obtain ⟨hmem, hdot⟩ := of_mem_splitAt hpiece c hc
  exact ⟨hmem, by simpa using hdot⟩

theorem intercalate_nameParts (className : String) :
    String.intercalate "." (nameParts className) = className := by
  rw [← String.toList_inj, String.toList_intercalate]
  unfold nameParts
  rw [List.map_map]
  have hback : (String.toList ∘ String.ofList) = id := by
    funext cs
    exact String.toList_ofList
  rw [hback, List.map_id]
  exact intercalate_splitAt '.' className.toList

theorem nameParts_intercalate {parts : List String} (hne : parts ≠ [])
    (hparts : ∀ s ∈ parts, '.' ∉ s.toList) :
    nameParts (String.intercalate "." parts) = parts := by
  have hfree : ∀ piece ∈ parts.map String.toList, ∀ c ∈ piece, (c == '.') = false := by
    intro piece hpiece
    obtain ⟨s, hs, rfl⟩ := List.mem_map.1 hpiece
    exact beq_eq_false_of_notMem (hparts s hs)
  have hsplit : splitAt (· == '.') (String.intercalate "." parts).toList =
      parts.map String.toList := by
    rw [String.toList_intercalate]
    exact splitAt_intercalate rfl (by simpa using hne) hfree
  unfold nameParts
  rw [hsplit, List.map_map]
  exact List.map_id'' (fun s => String.ofList_toList) parts

/-! ### Stems and extensions -/

theorem toList_fileNameOf (stem extension : String) :
    (fileNameOf stem extension).toList = stem.toList ++ '.' :: extension.toList := by
  simp [fileNameOf]

theorem splitExtension_fileNameOf {stem extension : String} (hne : stem ≠ "")
    (hfree : '.' ∉ extension.toList) :
    Path.splitExtension (fileNameOf stem extension) = (stem, some extension) := by
  have hextension : lastPiece (· == '.') (fileNameOf stem extension).toList = extension.toList := by
    rw [toList_fileNameOf, lastPiece_append_cons rfl, lastPiece_eq_self_iff]
    exact beq_eq_false_of_notMem hfree
  have hlength : (fileNameOf stem extension).toList.length =
      stem.toList.length + (extension.toList.length + 1) := by
    rw [toList_fileNameOf]
    simp
  have hstem : (fileNameOf stem extension).toList.take ((fileNameOf stem extension).toList.length -
      extension.toList.length - 1) = stem.toList := by
    have hn : (fileNameOf stem extension).toList.length - extension.toList.length - 1 =
        stem.toList.length := by omega
    rw [hn, toList_fileNameOf]
    exact List.take_left
  have hcond : ¬ (extension.toList.length == (fileNameOf stem extension).toList.length ||
      stem.toList.isEmpty) = true := by
    have hshorter : extension.toList.length ≠ (fileNameOf stem extension).toList.length := by omega
    simp [hshorter, hne]
  unfold Path.splitExtension
  simp only [hextension, hstem]
  rw [if_neg hcond, String.ofList_toList, String.ofList_toList]

/-- **A file name with an extension** is cut at its last dot, which is not its first character. -/
theorem splitExtension_eq_some_iff {file stem extension : String} :
    Path.splitExtension file = (stem, some extension) ↔
      file = fileNameOf stem extension ∧ stem ≠ "" ∧ '.' ∉ extension.toList := by
  constructor
  · intro h
    unfold Path.splitExtension at h
    simp only at h
    split at h
    · cases h
    rename_i hcond
    simp only [Bool.or_eq_true, beq_iff_eq, not_or] at hcond
    obtain ⟨hlength, hstem⟩ := hcond
    rw [Prod.mk.injEq, Option.some_inj] at h
    obtain ⟨rfl, rfl⟩ := h
    obtain ⟨hfree, hwhole | ⟨before, dot, hdot, hcut⟩⟩ := lastPiece_cases (· == '.') file.toList
    · exact absurd (congrArg List.length hwhole).symm hlength
    obtain rfl : dot = '.' := by simpa using hdot
    have hbefore : file.toList.take (file.toList.length -
        (lastPiece (· == '.') file.toList).length - 1) = before := by
      have hall : file.toList.length =
          before.length + ((lastPiece (· == '.') file.toList).length + 1) := by
        conv_lhs => rw [hcut]
        simp
      have hn : file.toList.length - (lastPiece (· == '.') file.toList).length - 1 =
          before.length := by omega
      rw [hn]
      conv_lhs => rw [hcut]
      exact List.take_left
    rw [hbefore] at hstem ⊢
    refine ⟨?_, ?_, ?_⟩
    · rw [← String.toList_inj, toList_fileNameOf, String.toList_ofList, String.toList_ofList]
      exact hcut
    · intro hempty
      rw [← String.toList_eq_nil_iff, String.toList_ofList] at hempty
      simp [hempty] at hstem
    · rw [String.toList_ofList]
      intro hmem
      simpa using hfree '.' hmem
  · rintro ⟨rfl, hne, hfree⟩
    exact splitExtension_fileNameOf hne hfree

/-- **The class of a source file**: its directories and the stem of its name, with dots between. -/
theorem classNameAt_eq_some_iff {extension : String} {location : Location} {name : String} :
    classNameAt extension location = some name ↔
      ∃ directories stem, location = directories ++ [fileNameOf stem extension] ∧
        stem ≠ "" ∧ '-' ∉ stem.toList ∧ '.' ∉ extension.toList ∧
        name = String.intercalate "." (directories ++ [stem]) := by
  constructor
  · intro h
    unfold classNameAt at h
    split at h
    · cases h
    rename_i file hlast
    obtain ⟨directories, rfl⟩ := List.getLast?_eq_some_iff.1 hlast
    rcases hsplit : Path.splitExtension file with ⟨stem, found⟩
    rw [hsplit] at h
    simp only at h
    split at h
    · cases h
    rename_i hcond
    simp only [Bool.or_eq_true, bne_iff_ne, ne_eq, not_or, not_not] at hcond
    obtain ⟨rfl, hdash⟩ := hcond
    obtain ⟨hfile, hstem, hextension⟩ := splitExtension_eq_some_iff.1 hsplit
    rw [List.dropLast_concat, Option.some_inj] at h
    exact ⟨directories, stem, by rw [hfile], hstem, by simpa using hdash, hextension, h.symm⟩
  · rintro ⟨directories, stem, rfl, hstem, hdash, hextension, rfl⟩
    unfold classNameAt
    rw [List.getLast?_concat]
    simp only [splitExtension_fileNameOf hstem hextension, List.dropLast_concat]
    rw [if_neg (by simpa using hdash)]

/-! ### From a class to its source and back -/

/-- The class whose source is at the place of a class is that class. -/
theorem classNameAt_sourcePlace {extension name : String} (hextension : '.' ∉ extension.toList)
    (hlast : lastPiece (· == '.') name.toList ≠ [])
    (hdash : '-' ∉ lastPiece (· == '.') name.toList) :
    classNameAt extension (sourcePlace extension name) = some name := by
  refine classNameAt_eq_some_iff.2 ⟨_, _, rfl, ?_, ?_, hextension, ?_⟩
  · intro hempty
    exact hlast (by simpa using congrArg String.toList hempty)
  · rwa [String.toList_ofList]
  · rw [← nameParts_eq, intercalate_nameParts]

theorem isFileName_of_dotless {s : String} (hne : s ≠ "") (hdot : '.' ∉ s.toList)
    (hslash : '/' ∉ s.toList) : IsFileName s := by
  refine ⟨hne, ?_, ?_, hslash⟩
  · rintro rfl
    exact hdot (by decide)
  · rintro rfl
    exact hdot (by decide)

theorem isFileName_fileNameOf {stem extension : String} (hstem : stem ≠ "")
    (hextension : extension ≠ "") (hslash : '/' ∉ (fileNameOf stem extension).toList) :
    IsFileName (fileNameOf stem extension) := by
  have hlength : 2 < (fileNameOf stem extension).toList.length := by
    have hs : 0 < stem.toList.length := List.length_pos_iff.2 fun h =>
      hstem (String.toList_eq_nil_iff.1 h)
    have he : 0 < extension.toList.length := List.length_pos_iff.2 fun h =>
      hextension (String.toList_eq_nil_iff.1 h)
    rw [toList_fileNameOf, List.length_append, List.length_cons]
    omega
  refine ⟨?_, ?_, ?_, hslash⟩ <;> intro h <;> rw [h] at hlength <;> exact absurd hlength (by decide)

theorem lastPart_mem_nameParts (name : String) :
    String.ofList (lastPiece (· == '.') name.toList) ∈ nameParts name := by
  rw [nameParts_eq]
  simp

theorem slash_notMem_of_mem_sourcePlace {extension name : String} (hname : '/' ∉ name.toList)
    (hextension : '/' ∉ extension.toList) : ∀ s ∈ sourcePlace extension name, '/' ∉ s.toList := by
  intro s hs hslash
  rcases List.mem_append.1 hs with hs | hs
  · exact hname (of_mem_nameParts (List.mem_of_mem_dropLast hs) '/' hslash).1
  · rw [List.mem_singleton.1 hs, toList_fileNameOf, List.mem_append, List.mem_cons] at hslash
    rcases hslash with hslash | hslash | hslash
    · exact hname (of_mem_nameParts (lastPart_mem_nameParts name) '/' hslash).1
    · exact absurd hslash (by decide)
    · exact hextension hslash

theorem isFileName_of_mem_sourcePlace {extension name : String} (hextension : IsSegment extension)
    (hparts : ∀ s ∈ nameParts name, s ≠ "") (hname : '/' ∉ name.toList) :
    ∀ s ∈ sourcePlace extension name, IsFileName s := by
  have hslash := slash_notMem_of_mem_sourcePlace hname hextension.2.2
  intro s hs
  have hsSlash := hslash s hs
  rcases List.mem_append.1 hs with hs | hs
  · have hpart := List.mem_of_mem_dropLast hs
    exact isFileName_of_dotless (hparts s hpart)
      (fun hdot => (of_mem_nameParts hpart '.' hdot).2 rfl) hsSlash
  · rw [List.mem_singleton.1 hs] at hsSlash ⊢
    exact isFileName_fileNameOf (hparts _ (lastPart_mem_nameParts name)) hextension.1 hsSlash

theorem mem_discover_iff {files : FileTree} {extension : String} {root : Path} {name : String} :
    name ∈ discover files extension root ↔
      ∃ location ∈ files.filesUnder root, classNameAt extension location = some name := by
  unfold discover
  rw [List.mem_mergeSort, List.mem_filterMap]

/-- **Discovery inverts the places of sources.** Below the root, the path to the source of a class
has names that spell the class. So a class is discovered if its source is a file, at least where a
walk of the files lists all of them; this has to be assumed of the empty root only, from which no
walk can start. -/
theorem discover_sourcePath {extension name : String} (hextension : IsSegment extension)
    (hname : ∀ s ∈ nameParts name, s ≠ "" ∧ '/' ∉ s.toList)
    (hdash : '-' ∉ lastPiece (· == '.') name.toList) (root : Path) :
    (∃ location, (sourcePath extension name root).parts = root.parts ++ location.map .name ∧
      classNameAt extension location = some name) ∧
    ∀ files : FileTree, (root.text = "" → files.ListsAll root) →
      files.isFile (sourcePath extension name root) = true → name ∈ discover files extension root := by
  have hslash : '/' ∉ name.toList := by
    intro hmem
    rw [← intercalate_nameParts name] at hmem
    rcases ClassPath.mem_toList_intercalate hmem with hmem | ⟨s, hs, hmem⟩
    · exact absurd hmem (by decide)
    · exact (hname s hs).2 hmem
  have hplace := isFileName_of_mem_sourcePlace hextension (fun s hs => (hname s hs).1) hslash
  have hlast : lastPiece (· == '.') name.toList ≠ [] := by
    intro h
    exact (hname _ (lastPart_mem_nameParts name)).1 (by rw [h])
  have hclass := classNameAt_sourcePlace hextension.2.1 hlast hdash
  constructor
  · refine ⟨sourcePlace extension name, ?_, hclass⟩
    rw [sourcePath, Path.parts_joinAll_names hplace]
  · intro files hwalk hfile
    have hlists : files.ListsAll root := by
      by_cases hroot : root.text = ""
      · exact hwalk hroot
      · exact FileTree.listsAll files hroot
    rw [sourcePath] at hfile
    have hmem := hlists _ (by simp [sourcePlace]) hplace hfile
    exact mem_discover_iff.2 ⟨_, hmem, hclass⟩

/-- The source of a class in a package, beside a file that is no source of a class. -/
def widgetFiles : FileTree where
  entries := [(["src"], .directory), (["src", "acme"], .directory),
    (["src", "acme", "Widget.java"], .file []), (["src", "acme", "package-info.java"], .file [])]
  here := []

theorem discover_sourcePath_widget :
    widgetFiles.isFile (sourcePath "java" "acme.Widget" ⟨"src"⟩) = true ∧
      "acme.Widget" ∈ discover widgetFiles "java" ⟨"src"⟩ := by
  have hfile : widgetFiles.isFile (sourcePath "java" "acme.Widget" ⟨"src"⟩) = true := by
    decide +kernel
  have hname : ∀ s ∈ nameParts "acme.Widget", s ≠ "" ∧ '/' ∉ s.toList := by decide +kernel
  refine ⟨hfile, (discover_sourcePath ?_ hname (by decide +kernel) _).2 _ ?_ hfile⟩
  · simp [IsSegment]
  · simp

/-! ### From a source to its class and back -/

/-- The directories of a location and the stem of its file are without dots. -/
def IsPackaged (extension : String) (location : Location) : Prop :=
  ∃ directories stem, location = directories ++ [fileNameOf stem extension] ∧
    ∀ s ∈ directories ++ [stem], '.' ∉ s.toList

theorem fileNameOf_inj {stem stem' extension : String}
    (h : fileNameOf stem extension = fileNameOf stem' extension) : stem = stem' := by
  have hchars := congrArg String.toList h
  rw [toList_fileNameOf, toList_fileNameOf] at hchars
  exact String.toList_inj.1 (List.append_cancel_right hchars)

/-- A location without dots is the place of its class. -/
theorem sourcePlace_of_isPackaged {extension name : String} {location : Location}
    (hpackaged : IsPackaged extension location) (hname : classNameAt extension location = some name) :
    sourcePlace extension name = location := by
  obtain ⟨directories, stem, rfl, hdots⟩ := hpackaged
  obtain ⟨directories', stem', hlocation, -, -, -, rfl⟩ := classNameAt_eq_some_iff.1 hname
  obtain ⟨rfl, hfile⟩ := List.append_inj' hlocation rfl
  obtain rfl := fileNameOf_inj (List.singleton_inj.1 hfile)
  have hparts := nameParts_intercalate (by simp) hdots
  have hcut := nameParts_eq (String.intercalate "." (directories ++ [stem]))
  rw [hparts, List.dropLast_concat] at hcut
  have hlast := List.append_cancel_left hcut
  rw [sourcePlace, hparts, List.dropLast_concat, ← List.singleton_inj.1 hlast]

/-- The names in the place of a class, without empty ones: directories without dots, and the file. -/
theorem namesOf_sourcePlace {extension name : String}
    (hslash : ∀ s ∈ sourcePlace extension name, '/' ∉ s.toList) :
    ∃ directories : List String, (∀ s ∈ directories, '.' ∉ s.toList) ∧
      ((sourcePlace extension name).flatMap fun s => namesOf s.toList) =
        directories ++
          [fileNameOf (String.ofList (lastPiece (· == '.') name.toList)) extension] := by
  set file := fileNameOf (String.ofList (lastPiece (· == '.') name.toList)) extension with hfile
  have hlast : namesOf file.toList = [file] :=
    namesOf_name (by simp [hfile, fileNameOf]) (hslash file (by simp [sourcePlace, hfile]))
  refine ⟨(nameParts name).dropLast.flatMap fun s => namesOf s.toList, ?_, ?_⟩
  · intro u hu hdot
    obtain ⟨s, hs, hu⟩ := List.mem_flatMap.1 hu
    rcases eq_or_ne s "" with rfl | hne
    · cases hu
    rw [namesOf_name hne (hslash s (List.mem_append_left _ hs)), List.mem_singleton] at hu
    subst hu
    exact (of_mem_nameParts (List.mem_of_mem_dropLast hs) '.' hdot).2 rfl
  · rw [sourcePlace, ← hfile, List.flatMap_append, List.flatMap_singleton, hlast]

theorem text_partOf (s : String) : (Path.partOf s).text = s := by
  unfold Path.partOf
  split
  · rename_i h
    exact (beq_iff_eq.1 h).symm
  · split
    · rename_i h
      exact (beq_iff_eq.1 h).symm
    · rfl

theorem slash_notMem_of_classNameAt {extension name : String} {location : Location}
    (hlocation : ∀ s ∈ location, IsFileName s) (hname : classNameAt extension location = some name) :
    '/' ∉ name.toList ∧ '/' ∉ extension.toList := by
  obtain ⟨directories, stem, rfl, -, -, -, rfl⟩ := classNameAt_eq_some_iff.1 hname
  have hfile := (hlocation (fileNameOf stem extension) (by simp)).slash_free
  rw [toList_fileNameOf, List.mem_append, List.mem_cons, not_or, not_or] at hfile
  refine ⟨fun hslash => ?_, hfile.2.2⟩
  rcases ClassPath.mem_toList_intercalate hslash with hslash | ⟨s, hs, hslash⟩
  · exact absurd hslash (by decide)
  rcases List.mem_append.1 hs with hs | hs
  · exact (hlocation s (List.mem_append_left _ hs)).slash_free hslash
  · exact hfile.1 (List.mem_singleton.1 hs ▸ hslash)

/-- If the path to the place of a class is the path of a file, the names it goes through are those of
the file. -/
theorem location_eq_of_parts_eq {extension name : String} {location : Location} {root : Path}
    (hroot : root.text ≠ "") (hlocation : ∀ s ∈ location, IsFileName s)
    (hslash : ∀ s ∈ sourcePlace extension name, '/' ∉ s.toList)
    (h : (sourcePath extension name root).parts = (root.joinAll location).parts) :
    ((sourcePlace extension name).flatMap fun s => namesOf s.toList).filter (· != ".") = location := by
  -- both paths start with the root, so what is joined to it is the same
  rw [sourcePath, Path.parts_joinAll (fun s hs => Path.head?_ne_of_free (hslash s hs))
    (.inl hroot), Path.parts_joinAll_names hlocation] at h
  have htexts := congrArg (List.map Path.Part.text) (List.append_cancel_left h)
  have hleft : (Path.Part.text ∘ Path.partOf) = id := funext text_partOf
  have hright : (Path.Part.text ∘ Path.Part.name) = id := rfl
  rwa [List.map_map, List.map_map, hleft, hright, List.map_id, List.map_id] at htexts

/-- The path to the place of a class leads through its names and no others. So if these are the names
of a file, no name but that of the file has a dot, and that one has one dot before its extension. -/
theorem isPackaged_of_parts_eq {extension name : String} {location : Location} {root : Path}
    (hroot : root.text ≠ "") (hlocation : ∀ s ∈ location, IsFileName s)
    (hname : classNameAt extension location = some name)
    (h : (sourcePath extension name root).parts = (root.joinAll location).parts) :
    IsPackaged extension location := by
  obtain ⟨hnameSlash, hextensionSlash⟩ := slash_notMem_of_classNameAt hlocation hname
  have hplaceSlash := slash_notMem_of_mem_sourcePlace hnameSlash hextensionSlash
  have hsame := location_eq_of_parts_eq hroot hlocation hplaceSlash h
  obtain ⟨directories, stem, rfl, -, -, -, -⟩ := classNameAt_eq_some_iff.1 hname
  obtain ⟨through, hthrough, hnames⟩ := namesOf_sourcePlace hplaceSlash
  set file := fileNameOf (String.ofList (lastPiece (· == '.') name.toList)) extension
  have hkept : through.filter (· != ".") = through := by
    refine List.filter_eq_self.2 fun s hs => ?_
    rw [bne_iff_ne]
    rintro rfl
    exact hthrough _ hs (by decide)
  rw [hnames, List.filter_append, hkept] at hsame
  by_cases hdot : file = "."
  · -- then the path ends before a file, where no name has a dot
    have hmem : fileNameOf stem extension ∈ through := by
      rw [hdot] at hsame
      have hdrop : ["."].filter (· != ".") = [] := by decide
      rw [hdrop, List.append_nil] at hsame
      rw [hsame]
      simp
    refine absurd ?_ (hthrough _ hmem)
    rw [toList_fileNameOf]
    simp
  · have hkeep : [file].filter (· != ".") = [file] := List.filter_eq_self.2 (by simpa using hdot)
    rw [hkeep] at hsame
    obtain ⟨rfl, hlast⟩ := List.append_inj' hsame rfl
    have hstem := fileNameOf_inj (List.singleton_inj.1 hlast)
    refine ⟨through, stem, rfl, fun s hs hdots => ?_⟩
    rcases List.mem_append.1 hs with hs | hs
    · exact hthrough s hs hdots
    · rw [List.mem_singleton.1 hs, ← hstem] at hdots
      exact (of_mem_nameParts (lastPart_mem_nameParts name) '.' hdots).2 rfl

theorem readText_of_read_fileNotFound {files : FileTree} {path missing : Path}
    (h : Source.Unit.read files path = .error (.fileNotFound missing)) :
    files.readText path = .error .notFound := by
  unfold Source.Unit.read at h
  split at h
  · unfold Source.Unit.parse at h
    split at h <;> cases h
  · assumption
  · cases h

/-- **Where a discovered class is looked for.** In every tree, the path to the source of a class that
was discovered because of a file is the path of that file iff no directory on the way from the root
and no stem has a dot. For a class with such a file, an extraction never misses the source, and no
other such file is taken for the same class. -/
theorem discovered_source_iff {files : FileTree} {extension name : String} {root : Path}
    {location : Location} (hfiles : files.IsProper) (hmem : location ∈ files.filesUnder root)
    (hname : classNameAt extension location = some name) :
    name ∈ discover files extension root ∧
    ((sourcePath extension name root).parts = (root.joinAll location).parts ↔
      IsPackaged extension location) ∧
    (IsPackaged extension location →
      sourcePath extension name root = root.joinAll location ∧
      (∀ (σ : Type) (x : Extractor σ) (s : σ), x.extension = extension →
        x.readUnit = Source.Unit.read files → ∀ e s',
          outcome (x.extract name root) s = (.error e, s') → e.status ≠ "FILE_NOT_FOUND") ∧
      ∀ other ∈ files.filesUnder root, IsPackaged extension other →
        classNameAt extension other = some name → other = location) := by
  obtain ⟨-, base, bytes, hroot, hentry⟩ := FileTree.mem_filesUnder_iff.1 hmem
  have hlocation : ∀ s ∈ location, IsFileName s := fun s hs =>
    hfiles.names _ hentry s (List.mem_append_right _ hs)
  have hplace : IsPackaged extension location →
      sourcePath extension name root = root.joinAll location := by
    intro hpackaged
    rw [sourcePath, sourcePlace_of_isPackaged hpackaged hname]
  refine ⟨mem_discover_iff.2 ⟨location, hmem, hname⟩, ⟨?_, fun h => by rw [hplace h]⟩, ?_⟩
  · exact isPackaged_of_parts_eq (FileTree.of_locate hroot).2.1 hlocation hname
  intro hpackaged
  refine ⟨hplace hpackaged, ?_, ?_⟩
  · rintro σ x s rfl hread e s' h hstatus
    obtain ⟨owner, missing, rfl⟩ : ∃ owner missing, e = .fileNotFound owner missing := by
      cases e <;> simp_all [ExtractError.status]
    have hmissed := Extractor.extract_failsOnly_missesSource s _ s' h owner missing rfl
    rw [hread, hplace hpackaged] at hmissed
    exact hfiles.readText_of_mem_filesUnder hmem (readText_of_read_fileNotFound hmissed)
  · intro other _ hother hname'
    rw [← sourcePlace_of_isPackaged hpackaged hname, sourcePlace_of_isPackaged hother hname']

theorem isProper_widgetFiles : widgetFiles.IsProper :=
  ⟨by decide +kernel, by decide +kernel, by decide +kernel⟩

theorem discovered_source_iff_widget :
    widgetFiles.IsProper ∧ ["acme", "Widget.java"] ∈ widgetFiles.filesUnder ⟨"src"⟩ ∧
      classNameAt "java" ["acme", "Widget.java"] = some "acme.Widget" ∧
      sourcePath "java" "acme.Widget" ⟨"src"⟩ =
        (⟨"src"⟩ : Path).joinAll ["acme", "Widget.java"] := by
  have hmem : ["acme", "Widget.java"] ∈ widgetFiles.filesUnder ⟨"src"⟩ := by decide +kernel
  have hname : classNameAt "java" ["acme", "Widget.java"] = some "acme.Widget" := by decide +kernel
  have hpackaged : IsPackaged "java" ["acme", "Widget.java"] :=
    ⟨["acme"], "Widget", by decide, by decide⟩
  obtain ⟨-, -, hfound⟩ := discovered_source_iff isProper_widgetFiles hmem hname
  exact ⟨isProper_widgetFiles, hmem, hname, (hfound hpackaged).1⟩

/-- Source files in directories with dots, and one of them also where its class has its place. -/
def dottedFiles : FileTree where
  entries := [(["src"], .directory), (["src", "com.acme"], .directory),
    (["src", "com.acme", "Widget.java"], .file []), (["src", "a.b"], .directory),
    (["src", "a.b", "C.java"], .file []), (["src", "a"], .directory), (["src", "a", "b"], .directory),
    (["src", "a", "b", "C.java"], .file [])]
  here := []

def dottedExtractor : Extractor Registry where
  introspector := Registry.introspector
  readUnit := Source.Unit.read dottedFiles
  policy := .default
  resolver := .default
  extension := "java"

/-- **A discovered class can be missed**: its source is looked for in another directory than the one
it was found in. And two files can be taken for one class. -/
theorem discovered_class_missed :
    dottedFiles.IsProper ∧
      (["com.acme", "Widget.java"] ∈ dottedFiles.filesUnder ⟨"src"⟩ ∧
        classNameAt "java" ["com.acme", "Widget.java"] = some "com.acme.Widget" ∧
        sourcePath "java" "com.acme.Widget" ⟨"src"⟩ ≠
          (⟨"src"⟩ : Path).joinAll ["com.acme", "Widget.java"] ∧
        (outcome (dottedExtractor.extract "com.acme.Widget" ⟨"src"⟩)
            (.ofList [⟨⟨"com.acme.Widget", .publicOnly⟩, []⟩])).1 =
          .error (.fileNotFound "com.acme.Widget" ⟨"src/com/acme/Widget.java"⟩)) ∧
      ["a.b", "C.java"] ∈ dottedFiles.filesUnder ⟨"src"⟩ ∧
      ["a", "b", "C.java"] ∈ dottedFiles.filesUnder ⟨"src"⟩ ∧
      classNameAt "java" ["a.b", "C.java"] = classNameAt "java" ["a", "b", "C.java"] := by
  refine ⟨⟨by decide +kernel, by decide +kernel, by decide +kernel⟩, ?_, ?_⟩
  · exact ⟨by decide +kernel, by decide +kernel, by decide +kernel, by decide +kernel⟩
  · exact ⟨by decide +kernel, by decide +kernel, by decide +kernel⟩

end MemberSpec
