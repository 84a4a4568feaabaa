import Mathlib
import MemberSpec.Proofs.Keyed
import MemberSpec.Proofs.Toml.Values

/-!
# Documents in TOML are read back

A table of plain entries and sections is written line by line, and the reader takes a line to a
statement. Statements are then put together: an entry goes to the end of the open table, and a header
opens an empty table behind all others.

* `statements?_lines`: written lines are read as their statements.
* `assemble?_statements`: the statements of a sheet make its table.
* `Sheet.parse?_render?`: a sheet is read back from its text.
-/

namespace MemberSpec.Toml

open Keyed (keys)

/-! ## Lines -/

/-- A line of a written document. -/
inductive Line where
  | entry (key : String) (v : Value)
  | header (key : String)

def Line.statement : Line → Statement
  | entry key v => .assign [key] v
  | header key => .header [key]

/-- A key that is written without quotes. -/
structure IsBare (key : String) : Prop where
  ne_nil : key.toList ≠ []
  bare : key.toList.all isBareKey = true

/-- The text of a line. A header has an empty line before it. -/
inductive WrittenAs : Line → List Char → Prop where
  | entry {key text : String} {v : Value} : IsBare key → Writable v → valueText? v = some text →
      WrittenAs (.entry key v) (key.toList ++ ' ' :: '=' :: ' ' :: (text.toList ++ ['\n']))
  | header {key : String} : IsBare key →
      WrittenAs (.header key) ('\n' :: '[' :: (key.toList ++ [']', '\n']))

section Lines

variable {key : String} {c : Char} {rest : List Char}

theorem isBareKey_ne (h : isBareKey c = true) :
    isWhite c = false ∧ c ≠ '#' ∧ c ≠ '\n' ∧ c ≠ '\r' ∧ c ≠ '"' ∧ c ≠ '\'' ∧ c ≠ '[' ∧
      c ≠ Char.ofNat 0xFEFF := by
  have hne : ∀ d, isBareKey d = false → c ≠ d := by
    rintro d hd rfl
    rw [h] at hd
    cases hd
  refine ⟨?_, hne _ (by decide), hne _ (by decide), hne _ (by decide), hne _ (by decide),
    hne _ (by decide), hne _ (by decide), hne _ (by decide)⟩
  simp only [isWhite, Bool.or_eq_false_iff, beq_eq_false_iff_ne]
  exact ⟨hne _ (by decide), hne _ (by decide)⟩

theorem IsBare.exists_cons (h : IsBare key) : ∃ c more, key.toList = c :: more ∧ isBareKey c = true := by
  obtain ⟨c, more, hkey⟩ := List.exists_cons_of_ne_nil h.ne_nil
  have hall := h.bare
  rw [hkey, List.all_cons, Bool.and_eq_true] at hall
  exact ⟨c, more, hkey, hall.1⟩

theorem IsBare.solid (h : IsBare key) (rest : List Char) : Solid (key.toList ++ rest) := by
  obtain ⟨c, more, hkey, hc⟩ := h.exists_cons
  obtain ⟨hwhite, hcomment, hline, hreturn, -⟩ := isBareKey_ne hc
  rw [hkey]
  exact ⟨c, more ++ rest, rfl, hwhite, hcomment, hline, hreturn⟩

/-- A bare key is read up to the first character that is no part of it. -/
theorem IsBare.key?_eq (h : IsBare key) (hc : isBareKey c = false) :
    key? (key.toList ++ c :: rest) = some (key, c :: rest) := by
  have htake : (key.toList ++ c :: rest).takeWhile isBareKey = key.toList := by
    rw [List.takeWhile_append_of_pos fun d hd => List.all_eq_true.1 h.bare d hd,
      List.takeWhile_cons_of_neg (by simp [hc]), List.append_nil]
  obtain ⟨d, more, hkey, hd⟩ := h.exists_cons
  obtain ⟨-, -, -, -, hdouble, hsingle, -⟩ := isBareKey_ne hd
  unfold key?
  split
  · rename_i heq
    rw [hkey, List.cons_append, List.cons.injEq] at heq
    exact absurd heq.1 hdouble
  · rename_i heq
    rw [hkey, List.cons_append, List.cons.injEq] at heq
    exact absurd heq.1 hsingle
  · simp only [htake]
    rw [if_neg (by simpa using h.ne_nil), String.ofList_toList, List.drop_left]

/-- A single key is a path, if neither a dot nor another part of it follows. -/
theorem IsBare.path?_eq (h : IsBare key) (c : Char) (rest : List Char) (hc : isBareKey c = false)
    (hdot : (skipWhite (c :: rest)).head? ≠ some '.') :
    path? (key.toList ++ c :: rest).length (key.toList ++ c :: rest) =
      some ([key], skipWhite (c :: rest)) := by
  rw [List.length_append, List.length_cons, ← Nat.add_assoc, path?, (h.solid _).skipWhite_eq,
    h.key?_eq hc]
  simp only [Option.bind_eq_bind, Option.bind_some]
  split
  · rename_i heq
    rw [heq] at hdot
    exact absurd rfl hdot
  · rfl

theorem statement?_assign {cs : List Char} (h : cs.head? ≠ some '[') :
    statement? cs = (do
      let (path, rest) ← path? cs.length cs
      let rest ← behind? '=' rest
      let (v, rest) ← value? (rest.length + 1) deepest (skipWhite rest)
      return (.assign path v, rest)) := by
  unfold statement?
  split
  · exact absurd rfl h
  · exact absurd rfl h
  · rfl

theorem statement?_header {cs : List Char} (h : cs.head? ≠ some '[') :
    statement? ('[' :: cs) = (do
      let (path, rest) ← path? cs.length cs
      return (.header path, ← behind? ']' rest)) := by
  unfold statement?
  split
  · rename_i heq
    cases heq
    exact absurd rfl h
  · rename_i heq
    cases heq
    rfl
  · rename_i hno
    exact absurd rfl (hno cs)

theorem IsBare.head?_append_ne (h : IsBare key) (rest : List Char) :
    (key.toList ++ rest).head? ≠ some '[' := by
  obtain ⟨c, more, hkey, hc⟩ := h.exists_cons
  obtain ⟨-, -, -, -, -, -, hbracket, -⟩ := isBareKey_ne hc
  rw [hkey]
  simpa using hbracket

theorem statement?_entry (h : IsBare key) {v : Value} (hv : Writable v) {text : String}
    (htext : valueText? v = some text) (rest : List Char) :
    statement? (key.toList ++ ' ' :: '=' :: ' ' :: (text.toList ++ '\n' :: rest)) =
      some (.assign [key] v, '\n' :: rest) := by
  obtain ⟨text', htext', hsolid, hread⟩ := hv.value?_eq
  obtain rfl : text = text' := Option.some.inj (htext.symm.trans htext')
  set tail := text.toList ++ '\n' :: rest with htail
  have hpath := h.path?_eq ' ' ('=' :: ' ' :: tail) (by decide)
    (by simp [skipWhite, isWhite])
  have hskip : skipWhite (' ' :: tail) = tail := by
    have hblank : skipWhite (' ' :: tail) = skipWhite tail := rfl
    rw [hblank, (hsolid.append _).skipWhite_eq]
  have hvalue : value? ((' ' :: tail).length + 1) deepest tail = some (v, '\n' :: rest) :=
    hread _ _ _ (by simp only [htail, List.length_cons, List.length_append]; omega)
      ⟨_, _, rfl, .inr (.inr rfl)⟩
  rw [statement?_assign (h.head?_append_ne _), hpath]
  change ((value? ((' ' :: tail).length + 1) deepest (skipWhite (' ' :: tail))).bind fun p =>
    some (Statement.assign [key] p.1, p.2)) = _
  rw [hskip, hvalue]
  rfl

theorem statement?_opening (h : IsBare key) (rest : List Char) :
    statement? ('[' :: (key.toList ++ ']' :: '\n' :: rest)) = some (.header [key], '\n' :: rest) := by
  have hpath := h.path?_eq ']' ('\n' :: rest) (by decide)
    (by simp [skipWhite, isWhite])
  rw [statement?_header (h.head?_append_ne _), hpath]
  rfl

/-- A line starts with a key or a line break, and not with a byte order mark. -/
theorem WrittenAs.exists_cons {line : Line} {text : List Char} (h : WrittenAs line text) :
    ∃ c more, text = c :: more ∧ c ≠ Char.ofNat 0xFEFF := by
  cases h with
  | @entry key text v hkey hv htext =>
    obtain ⟨c, more, hcons, hc⟩ := hkey.exists_cons
    rw [hcons]
    exact ⟨c, _, rfl, (isBareKey_ne hc).2.2.2.2.2.2.2⟩
  | header hkey => exact ⟨'\n', _, rfl, by decide⟩

/-- A written line is read as its statement, with the rest of the text behind it. -/
theorem WrittenAs.statement?_eq {line : Line} {text : List Char} (h : WrittenAs line text)
    (rest : List Char) :
    ∃ start, Solid start ∧ skipLines (text ++ rest).length (text ++ rest) = start ∧
      statement? start = some (line.statement, '\n' :: rest) := by
  cases h with
  | @entry key text v hkey hv htext =>
    have hall : key.toList ++ ' ' :: '=' :: ' ' :: (text.toList ++ ['\n']) ++ rest =
        key.toList ++ ' ' :: '=' :: ' ' :: (text.toList ++ '\n' :: rest) := by simp
    rw [hall]
    exact ⟨_, hkey.solid _, (hkey.solid _).skipLines_eq _, statement?_entry hkey hv htext rest⟩
  | @header key hkey =>
    have hall : '\n' :: '[' :: (key.toList ++ [']', '\n']) ++ rest =
        '\n' :: '[' :: (key.toList ++ ']' :: '\n' :: rest) := by simp
    have hsolid : Solid ('[' :: (key.toList ++ ']' :: '\n' :: rest)) :=
      ⟨_, _, rfl, by decide, by decide, by decide, by decide⟩
    rw [hall, List.length_cons, skipLines_lineFeed]
    exact ⟨_, hsolid, hsolid.skipLines_eq _, statement?_opening hkey rest⟩

theorem statements?_step {cs start rest : List Char} {first : Statement} {fuel : Nat}
    (hskip : skipLines cs.length cs = start) (hsolid : Solid start)
    (hfirst : statement? start = some (first, '\n' :: rest)) :
    statements? (fuel + 1) cs = (statements? fuel rest).map (first :: ·) := by
  obtain ⟨c, more, rfl, -⟩ := hsolid
  rw [statements?, hskip]
  simp only [hfirst]
  change ((statements? fuel rest).bind fun others => some (first :: others)) = _
  cases statements? fuel rest <;> rfl

/-- **Written lines are read as their statements.** -/
theorem statements?_lines {lines : List Line} {texts : List (List Char)}
    (h : List.Forall₂ WrittenAs lines texts) {fuel : Nat} (hfuel : lines.length < fuel) :
    statements? fuel texts.flatten = some (lines.map Line.statement) := by
  induction h generalizing fuel with
  | nil =>
    obtain ⟨fuel, rfl⟩ : ∃ n, fuel = n + 1 := ⟨fuel - 1, by simp at hfuel; omega⟩
    rfl
  | cons hline _ ih =>
    obtain ⟨fuel, rfl⟩ : ∃ n, fuel = n + 1 := ⟨fuel - 1, by simp at hfuel; omega⟩
    obtain ⟨start, hsolid, hskip, hfirst⟩ := hline.statement?_eq _
    rw [List.flatten_cons, statements?_step hskip hsolid hfirst, ih (by simpa using hfuel)]
    rfl

end Lines

/-! ## Statements put together -/

/-- Entries as they are in a table that is being made. -/
def nodesOf (es : Table) : Nodes := es.map fun e => (e.1, .value e.2)

def Line.ofEntries (es : Table) : List Line := es.map fun e => .entry e.1 e.2

section Assembly

variable {root inner : Nodes} {key k : String} {v : Value} {es : Table}

theorem keys_nodesOf (es : Table) : keys (nodesOf es) = keys es := by
  simp [keys, nodesOf]

theorem assign?_single (hk : k ∉ keys inner) :
    assign? .opened [k] v inner = some (inner ++ [(k, .value v)]) := by
  have hlookup := Keyed.lookup_eq_none_iff.2 hk
  simp [assign?, changeAt, hlookup]

theorem add?_entry (hk : k ∉ keys root) :
    Draft.add? ⟨root, []⟩ (.assign [k] v) = some ⟨root ++ [(k, .value v)], []⟩ := by
  simp only [Draft.add?, changeAt, assign?_single hk]
  rfl

theorem add?_header (current : List String) (hkey : key ∉ keys root) :
    Draft.add? ⟨root, current⟩ (.header [key]) = some ⟨root ++ [(key, .table .opened [])], [key]⟩ := by
  have hlookup := Keyed.lookup_eq_none_iff.2 hkey
  have hset := Keyed.set_of_notMem (v := Node.table .opened []) hkey
  rw [← Keyed.toml_setEntry_eq] at hset
  simp [Draft.add?, openTable?, changeAt, hlookup, hset]

/-- An entry below a header goes to the end of the table that the header opened. -/
theorem add?_entry_in (hkey : key ∉ keys root) (hk : k ∉ keys inner) :
    Draft.add? ⟨root ++ [(key, .table .opened inner)], [key]⟩ (.assign [k] v) =
      some ⟨root ++ [(key, .table .opened (inner ++ [(k, .value v)]))], [key]⟩ := by
  have hlookup := Keyed.lookup_append_self (v := Node.table .opened inner) hkey
  have hset := Keyed.set_append_self (v := Node.table .opened (inner ++ [(k, .value v)])) hkey
    (.table .opened inner)
  rw [← Keyed.toml_setEntry_eq] at hset
  simp [Draft.add?, changeAt, hlookup, assign?_single hk, hset]

/-- Entries go one after the other to the end of the open table, whatever table is open. -/
theorem foldlM_entries (draft : Nodes → Draft) (inner : Nodes)
    (hstep : ∀ inner k v, k ∉ keys inner →
      Draft.add? (draft inner) (.assign [k] v) = some (draft (inner ++ [(k, .value v)])))
    (hkeys : (keys es).Nodup) (hnew : ∀ k ∈ keys es, k ∉ keys inner) :
    ((Line.ofEntries es).map Line.statement).foldlM Draft.add? (draft inner) =
      some (draft (inner ++ nodesOf es)) := by
  induction es generalizing inner with
  | nil => simp [Line.ofEntries, nodesOf]
  | cons e es ih =>
    have hkeys' : e.1 ∉ keys es ∧ (keys es).Nodup := List.nodup_cons.1 hkeys
    have hrest : ∀ k ∈ keys es, k ∉ keys (inner ++ [(e.1, Node.value e.2)]) := by
      intro k hk hmem
      rw [Keyed.keys_append, List.mem_append] at hmem
      rcases hmem with hmem | hmem
      · exact hnew k (List.mem_cons_of_mem _ hk) hmem
      · obtain rfl : k = e.1 := List.mem_singleton.1 hmem
        exact hkeys'.1 hk
    have hfirst := hstep inner e.1 e.2 (hnew e.1 List.mem_cons_self)
    have hfold := ih _ hkeys'.2 hrest
    have hcons : (Line.ofEntries (e :: es)).map Line.statement =
        .assign [e.1] e.2 :: (Line.ofEntries es).map Line.statement := rfl
    rw [hcons, List.foldlM_cons, hfirst]
    change ((Line.ofEntries es).map Line.statement).foldlM Draft.add? _ = _
    rw [hfold]
    simp [nodesOf]

end Assembly

/-- Entries that can be written on lines of their own. -/
structure Plain (es : Table) : Prop where
  bare : ∀ e ∈ es, IsBare e.1
  writable : ∀ e ∈ es, Writable e.2
  distinct : (keys es).Nodup

/-- A table of plain entries and, behind them, sections of plain entries. -/
structure Sheet where
  plain : Table
  sections : List (String × Table)
  plain_plain : Plain plain
  sections_bare : ∀ s ∈ sections, IsBare s.1
  sections_plain : ∀ s ∈ sections, Plain s.2
  distinct : (keys plain ++ keys sections).Nodup

namespace Sheet

def sectionEntries (sections : List (String × Table)) : Table := sections.map fun s => (s.1, .table s.2)

def table (d : Sheet) : Table := d.plain ++ sectionEntries d.sections

def sectionLines (sections : List (String × Table)) : List Line :=
  sections.flatMap fun s => .header s.1 :: Line.ofEntries s.2

def lines (d : Sheet) : List Line := Line.ofEntries d.plain ++ sectionLines d.sections

/-- The sections of a document as they are in a table that is being made. -/
def sectionNodes (sections : List (String × Table)) : Nodes :=
  sections.map fun s => (s.1, .table .opened (nodesOf s.2))

/-- Each section is opened behind the others and gets its entries. -/
theorem foldlM_sections {sections : List (String × Table)} (root : Nodes) (current : List String)
    (hplain : ∀ s ∈ sections, Plain s.2) (hkeys : (keys root ++ keys sections).Nodup) :
    ∃ last, ((sectionLines sections).map Line.statement).foldlM Draft.add? ⟨root, current⟩ =
      some ⟨root ++ sectionNodes sections, last⟩ := by
  induction sections generalizing root current with
  | nil => exact ⟨current, by simp [sectionLines, sectionNodes]⟩
  | cons s sections ih =>
    have hkey : s.1 ∉ keys root := by
      intro hmem
      exact (List.nodup_append.1 hkeys).2.2 _ hmem _ List.mem_cons_self rfl
    have hkeys' : (keys (root ++ [(s.1, Node.table .opened (nodesOf s.2))]) ++ keys sections).Nodup := by
      rw [Keyed.keys_append, List.append_assoc]
      exact hkeys
    have hentries := foldlM_entries (fun inner => ⟨root ++ [(s.1, .table .opened inner)], [s.1]⟩) []
      (fun inner k v hk => add?_entry_in hkey hk) (hplain s List.mem_cons_self).distinct
      (fun k _ => List.not_mem_nil)
    obtain ⟨last, hlast⟩ := ih _ [s.1] (fun s hs => hplain s (List.mem_cons_of_mem _ hs)) hkeys'
    refine ⟨last, ?_⟩
    have hcons : (sectionLines (s :: sections)).map Line.statement =
        .header [s.1] :: ((Line.ofEntries s.2).map Line.statement ++
          (sectionLines sections).map Line.statement) := by
      simp [sectionLines, Line.statement]
    rw [hcons, List.foldlM_cons, add?_header current hkey]
    change ((Line.ofEntries s.2).map Line.statement ++ _).foldlM Draft.add? _ = _
    rw [List.foldlM_append, hentries]
    change ((sectionLines sections).map Line.statement).foldlM Draft.add? _ = _
    rw [List.nil_append, hlast]
    simp [sectionNodes]

theorem toTable_eq_map (nodes : Nodes) : toTable nodes = nodes.map fun e => (e.1, e.2.toValue) := by
  induction nodes with
  | nil => rfl
  | cons e nodes ih => rw [toTable, ih]; rfl

theorem toTable_nodesOf (es : Table) : toTable (nodesOf es) = es := by
  rw [toTable_eq_map, nodesOf, List.map_map]
  exact List.map_id es

/-- **The statements of a sheet make its table.** -/
theorem assemble?_statements (d : Sheet) :
    assemble? (d.lines.map Line.statement) = some d.table := by
  have hplain := foldlM_entries (fun inner => ⟨inner, []⟩) []
    (fun inner k v hk => add?_entry hk) d.plain_plain.distinct (fun k _ => List.not_mem_nil)
  obtain ⟨last, hsections⟩ := foldlM_sections (nodesOf d.plain) [] d.sections_plain
    (by rw [keys_nodesOf]; exact d.distinct)
  rw [assemble?, lines, List.map_append, List.foldlM_append, hplain, List.nil_append]
  change (((sectionLines d.sections).map Line.statement).foldlM Draft.add? _).bind _ = _
  rw [hsections]
  have htable : toTable (nodesOf d.plain ++ sectionNodes d.sections) = d.table := by
    rw [toTable_eq_map, List.map_append, ← toTable_eq_map, toTable_nodesOf]
    simp [table, sectionNodes, sectionEntries, Node.toValue, toTable_nodesOf]
  exact congrArg some htable

/-! ## The text of a sheet -/

section Texts

variable {es : Table} {key : String} {v : Value}

theorem plainText?_cons (h : Writable v) : plainText? ((key, v) :: es) = (do
    let first ← valueText? v
    let others ← plainText? es
    return key ++ " = " ++ first ++ "\n" ++ others) := by
  cases h with
  | simple hv => cases hv <;> rfl
  | array _ => rfl

theorem sectionsText?_cons (h : Writable v) : sectionsText? ((key, v) :: es) = sectionsText? es := by
  cases h with
  | simple hv => cases hv <;> rfl
  | array _ => rfl

/-- Plain entries are written line by line, and sections are left for later. -/
theorem plainText?_entries (hbare : ∀ e ∈ es, IsBare e.1) (hwritable : ∀ e ∈ es, Writable e.2)
    (sections : List (String × Table)) :
    ∃ text texts, plainText? (es ++ sectionEntries sections) = some text ∧
      text.toList = texts.flatten ∧ List.Forall₂ WrittenAs (Line.ofEntries es) texts := by
  induction es with
  | nil =>
    refine ⟨"", [], ?_, rfl, .nil⟩
    rw [List.nil_append]
    induction sections with
    | nil => rfl
    | cons s sections ih => exact ih
  | cons e es ih =>
    obtain ⟨text, texts, htext, hflatten, hlines⟩ :=
      ih (fun e he => hbare e (List.mem_cons_of_mem _ he))
        (fun e he => hwritable e (List.mem_cons_of_mem _ he))
    have hv := hwritable e List.mem_cons_self
    obtain ⟨first, hfirst, -⟩ := hv.value?_eq
    refine ⟨e.1 ++ " = " ++ first ++ "\n" ++ text, _, ?_, ?_,
      .cons (.entry (hbare e List.mem_cons_self) hv hfirst) hlines⟩
    · rw [List.cons_append, plainText?_cons hv, hfirst, htext]
      rfl
    · simp [hflatten]

theorem sectionsText?_entries (hwritable : ∀ e ∈ es, Writable e.2)
    (sections : List (String × Table)) :
    sectionsText? (es ++ sectionEntries sections) = sectionsText? (sectionEntries sections) := by
  induction es with
  | nil => rfl
  | cons e es ih =>
    rw [List.cons_append, sectionsText?_cons (hwritable e List.mem_cons_self),
      ih fun e he => hwritable e (List.mem_cons_of_mem _ he)]

theorem sectionsText?_sections {sections : List (String × Table)}
    (hbare : ∀ s ∈ sections, IsBare s.1) (hplain : ∀ s ∈ sections, Plain s.2) :
    ∃ text texts, sectionsText? (sectionEntries sections) = some text ∧
      text.toList = texts.flatten ∧ List.Forall₂ WrittenAs (sectionLines sections) texts := by
  induction sections with
  | nil => exact ⟨"", [], rfl, rfl, .nil⟩
  | cons s sections ih =>
    obtain ⟨text, texts, htext, hflatten, hlines⟩ :=
      ih (fun s hs => hbare s (List.mem_cons_of_mem _ hs))
        (fun s hs => hplain s (List.mem_cons_of_mem _ hs))
    have hs := hplain s List.mem_cons_self
    obtain ⟨inner, inners, hinner, hinnerFlatten, hinnerLines⟩ :=
      plainText?_entries hs.bare hs.writable []
    have hempty : sectionEntries [] = [] := rfl
    rw [hempty, List.append_nil] at hinner
    have hsection := List.Forall₂.cons (WrittenAs.header (hbare s List.mem_cons_self)) hinnerLines
    refine ⟨"\n[" ++ s.1 ++ "]\n" ++ inner ++ text, _, ?_, ?_, List.rel_append hsection hlines⟩
    · have hcons : sectionsText? (sectionEntries (s :: sections)) = (do
          let first ← plainText? s.2
          let others ← sectionsText? (sectionEntries sections)
          return "\n[" ++ s.1 ++ "]\n" ++ first ++ others) := rfl
      rw [hcons, hinner, htext]
      rfl
    · simp [hflatten, hinnerFlatten]

theorem length_le_flatten {lines : List Line} {texts : List (List Char)}
    (h : List.Forall₂ WrittenAs lines texts) : lines.length ≤ texts.flatten.length := by
  induction h with
  | nil => exact le_rfl
  | cons hline _ ih =>
    obtain ⟨c, more, rfl, -⟩ := hline.exists_cons
    rw [List.length_cons, List.flatten_cons, List.length_append, List.length_cons]
    omega

theorem head?_flatten_ne {lines : List Line} {texts : List (List Char)}
    (h : List.Forall₂ WrittenAs lines texts) : texts.flatten.head? ≠ some (Char.ofNat 0xFEFF) := by
  cases h with
  | nil => simp
  | cons hline _ =>
    obtain ⟨c, more, rfl, hc⟩ := hline.exists_cons
    simpa using hc

end Texts

/-- **Sheets are read back** from their text. -/
theorem parse?_render? (d : Sheet) :
    ∃ text, render? d.table = some text ∧ parse? text = some d.table := by
  obtain ⟨first, firsts, hfirst, hfirstFlatten, hfirstLines⟩ :=
    plainText?_entries d.plain_plain.bare d.plain_plain.writable d.sections
  obtain ⟨second, seconds, hsecond, hsecondFlatten, hsecondLines⟩ :=
    sectionsText?_sections d.sections_bare d.sections_plain
  have hlines : List.Forall₂ WrittenAs d.lines (firsts ++ seconds) :=
    List.rel_append hfirstLines hsecondLines
  have htext : (first ++ second).toList = (firsts ++ seconds).flatten := by
    rw [String.toList_append, hfirstFlatten, hsecondFlatten, List.flatten_append]
  refine ⟨first ++ second, ?_, ?_⟩
  · rw [render?, table, hfirst, sectionsText?_entries d.plain_plain.writable, hsecond]
    rfl
  · have hmark : (first ++ second).toList.head? ≠ some (Char.ofNat 0xFEFF) := by
      rw [htext]
      exact head?_flatten_ne hlines
    have hlength := length_le_flatten hlines
    rw [parse?]
    simp only [beq_iff_eq, if_neg hmark]
    rw [htext, statements?_lines hlines (by omega), Option.bind_some, assemble?_statements]

end Sheet

end MemberSpec.Toml
