import Mathlib
import MemberSpec.Proofs.Settings.Leaves
import MemberSpec.Proofs.Toml.DistinctKeys

/-!
# Layers, leaf by leaf

Defaults, a file and the environment are merged table by table, and yet every leaf is resolved by
itself: it has the value of the last layer that gives one, and which other leaves are set where makes no
difference.

* `lookup_mergeEntries`, `Leaf.given?_mergeEntries`: what a layer on top of another changes.
* `Leaf.given?_layer`: what the environment gives to a leaf is the value of the last variable with its
  name.
* `loadFrom_eq_ok_iff`: loaded settings are the ones in which every leaf is resolved.
-/

namespace MemberSpec.Settings

open Keyed (keys)

/-! ## A layer on top of another -/

/-- A value with a later one on top, where either can be missing. -/
def stacked : Option Layered → Option Layered → Option Layered
  | earlier, none => earlier
  | none, some v => some v
  | some old, some v => some (old.merge v)

/-- **Merged entries** under a key depend on the entries under that key only. -/
theorem lookup_mergeEntries {entries later : Entries} (h : (keys later).Nodup) (k : String) :
    (Layered.mergeEntries entries later).lookup k = stacked (entries.lookup k) (later.lookup k) := by
  -- The first entry goes into `entries`, so the rest is merged into something else.
  induction later generalizing entries with
  | nil => rw [Layered.mergeEntries]; rfl
  | cons e later ih =>
    obtain ⟨key, v⟩ := e
    obtain ⟨hkey, hlater⟩ : key ∉ keys later ∧ (keys later).Nodup := List.nodup_cons.1 h
    rw [Layered.mergeEntries, ih hlater, Keyed.layered_setEntry_eq, Keyed.lookup_set, Keyed.lookup_cons]
    by_cases hk : k = key
    -- The key is not there a second time, so what was set stays.
    · rw [if_pos hk, if_pos hk, hk, Keyed.lookup_eq_none_iff.2 hkey]
      cases entries.lookup key <;> rfl
    · rw [if_neg hk, if_neg hk]

theorem nodup_keys_mergeEntries {entries : Entries} (h : (keys entries).Nodup) (later : Entries) :
    (keys (Layered.mergeEntries entries later)).Nodup := by
  induction later generalizing entries with
  | nil => rwa [Layered.mergeEntries]
  | cons e later ih =>
    obtain ⟨key, v⟩ := e
    rw [Layered.mergeEntries, Keyed.layered_setEntry_eq]
    exact ih (Keyed.nodup_keys_set h)

theorem Tidy.mergeEntries {entries later : Entries} (h : Tidy entries) (hlater : Tidy later) :
    Tidy (Layered.mergeEntries entries later) := by
  refine ⟨nodup_keys_mergeEntries h.nodup later, fun g hg v hv => ?_⟩
  rw [lookup_mergeEntries hlater.nodup] at hv
  cases hnew : later.lookup g with
  | none =>
    rw [hnew] at hv
    exact h.table g hg v hv
  | some new =>
    obtain ⟨m, inner, rfl, hinner⟩ := hlater.table g hg new hnew
    cases hold : entries.lookup g with
    | none =>
      rw [hold, hnew] at hv
      cases hv
      exact ⟨m, inner, rfl, hinner⟩
    | some old =>
      obtain ⟨m', outer, rfl, houter⟩ := h.table g hg old hold
      rw [hold, hnew] at hv
      cases hv
      exact ⟨m, _, by rw [Layered.merge], nodup_keys_mergeEntries houter inner⟩

/-- A table is of no leaf's type. -/
theorem Leaf.of?_table (l : Leaf) (m : Mark) (inner : Entries) : l.of? (.table m inner) = none := by
  cases l <;> rfl

/-- What is below makes no difference to a leaf: lists and numbers are replaced as a whole. -/
theorem Leaf.of?_merge (l : Leaf) (old v : Layered) : l.of? (old.merge v) = l.of? v := by
  cases v with
  | scalar m s => simp only [Layered.merge]
  | sequence m items => simp only [Layered.merge]
  | table m inner => cases old <;> simp only [Layered.merge, Leaf.of?_table]

theorem Leaf.map_of?_stacked (l : Leaf) (earlier later : Option Layered) :
    (stacked earlier later).map l.of? = (later.map l.of?).or (earlier.map l.of?) := by
  cases later with
  | none => rfl
  | some v =>
    cases earlier with
    | none => rfl
    | some old => exact congrArg some (l.of?_merge old v)

theorem below?_mergeEntries {entries later : Entries} (h : Tidy entries) (hlater : Tidy later)
    {group : Option String} (hgroup : ∀ g ∈ group, g ∈ sections) (key : String) :
    below? (Layered.mergeEntries entries later) group key =
      stacked (below? entries group key) (below? later group key) := by
  cases group with
  | none => exact lookup_mergeEntries hlater.nodup key
  | some g =>
    simp only [below?, lookup_mergeEntries hlater.nodup]
    cases hnew : later.lookup g with
    | none => rfl
    | some new =>
      obtain ⟨m, inner, rfl, hinner⟩ := hlater.table g (hgroup g rfl) new hnew
      cases hold : entries.lookup g with
      | none =>
        simp only [stacked]
        cases inner.lookup key <;> rfl
      | some old =>
        obtain ⟨m', outer, rfl, -⟩ := h.table g (hgroup g rfl) old hold
        simp only [stacked, Layered.merge]
        exact lookup_mergeEntries hinner key

/-- **A leaf in merged layers** has the value of the later layer, if that gives one. -/
theorem Leaf.given?_mergeEntries (l : Leaf) {entries later : Entries} (h : Tidy entries)
    (hlater : Tidy later) :
    l.given? (Layered.mergeEntries entries later) = (l.given? later).or (l.given? entries) := by
  rw [given?, below?_mergeEntries h hlater fun g hg => mem_sections hg, l.map_of?_stacked]
  rfl

/-! ## The environment -/

namespace Environment

/-- Whether a variable is for settings: its name starts with the name of the program, in any case. -/
def isSetting (name : String) : Bool :=
  (name.toList.take namePrefix.toList.length).map Char.toUpper == namePrefix.toList

end Environment

open Environment (Variable isSetting valueOf entriesOf keysOf? namePrefix)

namespace Leaf

/-- The name of a leaf in the environment, in lower case and without what all names start with. -/
def label (l : Leaf) : String := (l.group?.map (· ++ "__")).getD "" ++ l.key

/-- Whether a variable sets the leaf: behind the start of its name stands the label, in any case. -/
def isNamedBy (l : Leaf) (name : String) : Bool :=
  isSetting name && (name.toList.drop namePrefix.toList.length).map Char.toLower == l.label.toList

/-- The value that the variables give to a leaf: that of the last one with its name. -/
def inEnvironment? (l : Leaf) (vs : List Variable) : Option Layered :=
  (vs.reverse.find? fun v => l.isNamedBy v.1).map fun v => valueOf v.2

theorem inEnvironment?_cons (l : Leaf) (v : Variable) (vs : List Variable) :
    l.inEnvironment? (v :: vs) =
      (l.inEnvironment? vs).or (if l.isNamedBy v.1 then some (valueOf v.2) else none) := by
  rw [inEnvironment?, List.reverse_cons, List.find?_append, Option.map_or, inEnvironment?,
    List.find?_singleton]
  split <;> rfl

theorem inEnvironment?_eq_none (l : Leaf) {vs : List Variable} (h : ∀ v ∈ vs, isSetting v.1 = false) :
    l.inEnvironment? vs = none := by
  rw [inEnvironment?, Option.map_eq_none_iff, List.find?_eq_none]
  intro v hv
  rw [isNamedBy, h v (List.mem_reverse.1 hv)]
  exact Bool.false_ne_true

theorem label_injective : Function.Injective label := by decide

theorem eq_of_isNamedBy {l l' : Leaf} {name : String} (h : l.isNamedBy name = true)
    (h' : l'.isNamedBy name = true) : l = l' := by
  rw [isNamedBy, Bool.and_eq_true, beq_iff_eq] at h h'
  exact label_injective (String.toList_injective (h.2.symm.trans h'.2))

/-- In a label there is no letter with a lower case of its own but those of the alphabet. -/
theorem map_lower_eq (l : Leaf) {cs : List Char} (h : cs.map Char.toLower = l.label.toList) :
    cs.map Environment.lower = l.label.toList := by
  have hkelvin : Char.ofNat 0x212A ∉ l.label.toList := by cases l <;> decide
  rw [← h]
  refine List.map_congr_left fun c hc => ?_
  have hne : c ≠ Char.ofNat 0x212A := by
    rintro rfl
    exact hkelvin (h ▸ List.mem_map.2 ⟨_, hc, by decide⟩)
  rw [Environment.lower, if_neg (by simpa using hne)]

theorem keysOf?_eq {l : Leaf} {name : String} (h : l.isNamedBy name = true) :
    keysOf? name = some (l.group?.toList ++ [l.key]) := by
  rw [isNamedBy, Bool.and_eq_true, beq_iff_eq] at h
  have hrest : (Environment.dotted l.label.toList).isEmpty = false := by cases l <;> decide
  have hkeys : (Text.splitAt (· == '.') (Environment.dotted l.label.toList)).map String.ofList =
      l.group?.toList ++ [l.key] := by
    cases l <;> decide
  have hstart : ((name.toList.take namePrefix.toList.length).map Char.toUpper == namePrefix.toList) = true :=
    h.1
  simp only [keysOf?]
  rw [if_pos hstart, l.map_lower_eq h.2, hrest, hkeys]
  rfl

/-- The entries with a value for a leaf and nothing else. -/
def only (l : Leaf) (v : Layered) : Entries :=
  match l.group? with
  | none => [(l.key, v)]
  | some g => [(g, .table .environment [(l.key, v)])]

theorem nest_eq (l : Leaf) (v : Layered) :
    Environment.nest v (l.group?.toList ++ [l.key]) = .table .environment (l.only v) := by
  cases l <;> rfl

theorem entriesOf_eq {l : Leaf} {v : Variable} (h : l.isNamedBy v.1 = true) :
    entriesOf v = l.only (valueOf v.2) := by
  rw [entriesOf, keysOf?_eq h]
  simp only [nest_eq]

theorem tidy_only (l : Leaf) (v : Layered) : Tidy (l.only v) := by
  unfold only
  cases hg : l.group? with
  | none =>
    refine ⟨List.nodup_singleton _, fun g hsection w hw => ?_⟩
    have hkey : g = l.key := List.mem_singleton.1 (Keyed.mem_keys_of_mem (Keyed.mem_of_lookup hw))
    exact absurd (hkey ▸ hsection) l.key_notMem_sections
  | some g =>
    refine ⟨List.nodup_singleton _, fun g' _ w hw => ?_⟩
    cases List.mem_singleton.1 (Keyed.mem_of_lookup hw)
    exact ⟨_, _, rfl, List.nodup_singleton _⟩

/-- The only value that there is belongs to the leaf and to no other. -/
theorem below?_only (l l' : Leaf) (v : Layered) :
    below? (l.only v) l'.group? l'.key = if l' = l then some v else none := by
  unfold only below?
  -- A key outside of all sections is never the name of one, so the cases of two kinds cannot clash.
  cases hg : l.group? with
  | none =>
    cases hg' : l'.group? with
    | none => simp [Keyed.lookup_cons, key_injective.eq_iff]
    | some g' =>
      have hne : l' ≠ l := by rintro rfl; rw [hg] at hg'; cases hg'
      have hkey : g' ≠ l.key := by rintro rfl; exact l.key_notMem_sections (mem_sections hg')
      simp [Keyed.lookup_cons, hne, hkey]
  | some g =>
    cases hg' : l'.group? with
    | none =>
      have hne : l' ≠ l := by rintro rfl; rw [hg] at hg'; cases hg'
      have hkey : l'.key ≠ g := by rintro rfl; exact l'.key_notMem_sections (mem_sections hg)
      simp [Keyed.lookup_cons, hne, hkey]
    | some g' =>
      by_cases hgroup : g' = g
      · simp [Keyed.lookup_cons, key_injective.eq_iff, hgroup]
      · have hne : l' ≠ l := by rintro rfl; rw [hg] at hg'; cases hg'; exact hgroup rfl
        simp [Keyed.lookup_cons, hgroup, hne]

end Leaf

/-- Every variable for settings sets a leaf. -/
def NamesLeaves (vs : List Variable) : Prop :=
  ∀ v ∈ vs, isSetting v.1 = true → ∃ l : Leaf, l.isNamedBy v.1 = true

instance NamesLeaves.decidable (vs : List Variable) : Decidable (NamesLeaves vs) :=
  inferInstanceAs (Decidable (∀ v ∈ vs, isSetting v.1 = true → ∃ l : Leaf, l.isNamedBy v.1 = true))

theorem entriesOf_eq_nil {v : Variable} (h : isSetting v.1 = false) : entriesOf v = [] := by
  have hkeys : keysOf? v.1 = none := by
    simp only [keysOf?]
    rw [if_neg (by rw [isSetting] at h; rw [h]; decide)]
  rw [entriesOf, hkeys]

/-- **What a variable sets.** -/
theorem entriesOf_cases {v : Variable} (h : isSetting v.1 = true → ∃ l : Leaf, l.isNamedBy v.1 = true) :
    Tidy (entriesOf v) ∧
      ∀ l : Leaf, l.given? (entriesOf v) = if l.isNamedBy v.1 then some (l.of? (valueOf v.2)) else none := by
  cases hv : isSetting v.1 with
  | false =>
    rw [entriesOf_eq_nil hv]
    refine ⟨.nil, fun l => ?_⟩
    rw [Leaf.isNamedBy, hv]
    cases l <;> rfl
  | true =>
    obtain ⟨l, hl⟩ := h hv
    rw [Leaf.entriesOf_eq hl]
    refine ⟨l.tidy_only _, fun l' => ?_⟩
    rw [Leaf.given?, Leaf.below?_only]
    by_cases hl' : l'.isNamedBy v.1 = true
    · rw [if_pos (Leaf.eq_of_isNamedBy hl' hl), if_pos hl']
      rfl
    · rw [if_neg (by rintro rfl; exact hl' hl), if_neg hl']
      rfl

/-- Variables on top of other entries: each leaf has the value of the last variable that sets it. -/
theorem foldl_entriesOf {vs : List Variable} (hvs : NamesLeaves vs) {start : Entries} (h : Tidy start) :
    Tidy (vs.foldl (fun entries v => Layered.mergeEntries entries (entriesOf v)) start) ∧
      ∀ l : Leaf, l.given? (vs.foldl (fun entries v => Layered.mergeEntries entries (entriesOf v)) start) =
        ((l.inEnvironment? vs).map l.of?).or (l.given? start) := by
  -- What the first variable sets becomes part of the start, below all that comes later.
  induction vs generalizing start with
  | nil => exact ⟨h, fun l => rfl⟩
  | cons v vs ih =>
    obtain ⟨htidy, hgiven⟩ := entriesOf_cases (hvs v List.mem_cons_self)
    obtain ⟨hrest, hl⟩ := ih (fun w hw => hvs w (List.mem_cons_of_mem _ hw)) (h.mergeEntries htidy)
    refine ⟨hrest, fun l => ?_⟩
    rw [List.foldl_cons, hl, l.given?_mergeEntries h htidy, hgiven, ← Option.or_assoc,
      l.inEnvironment?_cons, Option.map_or]
    split <;> rfl

theorem tidy_layer {vs : List Variable} (hvs : NamesLeaves vs) : Tidy (Environment.layer vs) :=
  (foldl_entriesOf hvs .nil).1

/-- **The environment** gives a leaf the value of the last variable with its name. -/
theorem Leaf.given?_layer (l : Leaf) {vs : List Variable} (hvs : NamesLeaves vs) :
    l.given? (Environment.layer vs) = (l.inEnvironment? vs).map l.of? := by
  rw [Environment.layer, (foldl_entriesOf hvs .nil).2 l]
  cases l <;> exact Option.or_none

/-! ## The file and the defaults -/

namespace Leaf

/-- The value of a leaf in a table. -/
def inTable? (l : Leaf) (t : Toml.Table) : Option Toml.Value :=
  match l.group? with
  | none => t.lookup l.key
  | some g =>
    match t.lookup g with
    | some (.table inner) => inner.lookup l.key
    | _ => none

/-- A value of a document as a value of the leaf, if it is of its type. -/
def ofToml? (l : Leaf) (v : Toml.Value) : Option l.Content := l.of? (.ofToml .defaults v)

end Leaf

theorem ofItems_eq_map (mark : Mark) (vs : List Toml.Value) :
    Layered.ofItems mark vs = vs.map (Layered.ofToml mark) := by
  induction vs with
  | nil => rw [Layered.ofItems]; rfl
  | cons v vs ih => rw [Layered.ofItems, ih]; rfl

theorem ofEntries_eq_map (mark : Mark) (t : Toml.Table) :
    Layered.ofEntries mark t = t.map fun e => (e.1, Layered.ofToml mark e.2) := by
  induction t with
  | nil => rw [Layered.ofEntries]; rfl
  | cons e t ih => rw [Layered.ofEntries, ih]; rfl

theorem keys_ofEntries (mark : Mark) (t : Toml.Table) : keys (Layered.ofEntries mark t) = keys t := by
  rw [ofEntries_eq_map, keys, List.map_map]
  rfl

theorem lookup_ofEntries (mark : Mark) (t : Toml.Table) (k : String) :
    (Layered.ofEntries mark t).lookup k = (t.lookup k).map (Layered.ofToml mark) := by
  rw [ofEntries_eq_map]
  induction t with
  | nil => rfl
  | cons e t ih =>
    rw [List.map_cons, Keyed.lookup_cons, Keyed.lookup_cons, ih]
    split <;> rfl

/-- Which layer a value of a document is from makes no difference to a view. -/
def MarkFree {α : Type} (view : Layered → Option α) : Prop :=
  ∀ m m' v, view (.ofToml m v) = view (.ofToml m' v)

namespace MarkFree

variable {α β : Type} {view : Layered → Option α}

theorem boolean : MarkFree Layered.boolean? := by
  intro m m' v
  cases v <;> simp only [Layered.ofToml, Layered.boolean?]

theorem natural (limit : Nat) : MarkFree (Layered.natural? limit) := by
  intro m m' v
  cases v <;> simp only [Layered.ofToml, Layered.natural?]

theorem text : MarkFree Layered.text? := by
  intro m m' v
  cases v <;> simp only [Layered.ofToml, Layered.text?]

theorem map (h : MarkFree view) (f : α → β) : MarkFree fun v => (view v).map f :=
  fun m m' v => congrArg (Option.map f) (h m m' v)

theorem items (h : MarkFree view) : MarkFree (Layered.items? view) := by
  intro m m' v
  cases v with
  | array vs =>
    simp only [Layered.ofToml, Layered.items?, ofItems_eq_map, List.mapM_map]
    congr 1
    funext v
    exact h m m' v
  | _ => simp only [Layered.ofToml, Layered.items?]

end MarkFree

theorem Leaf.markFree_of? (l : Leaf) : MarkFree l.of? := by
  cases l with
  | version => exact .natural _
  | parallelThreads => exact .natural _
  | workspaceRoot => exact (MarkFree.text.map Path.mk).map some
  | debug => exact .boolean
  | jdkCatalog => exact .boolean
  | packageFallback => exact .boolean
  | extension => exact .text
  | standardNamespace => exact .text
  | classpath => exact (MarkFree.text.map Path.mk).items
  | notNull => exact MarkFree.text.items
  | nullable => exact MarkFree.text.items

def isTable : Toml.Value → Bool
  | .table _ => true
  | _ => false

/-- A table in which sections are tables, as far as they are there. -/
def HasSections (t : Toml.Table) : Prop := ∀ g ∈ sections, (t.lookup g).all isTable = true

instance HasSections.decidable (t : Toml.Table) : Decidable (HasSections t) :=
  inferInstanceAs (Decidable (∀ g ∈ sections, (t.lookup g).all isTable = true))

theorem HasSections.exists_eq_table {t : Toml.Table} (h : HasSections t) {g : String} (hg : g ∈ sections)
    {v : Toml.Value} (hv : t.lookup g = some v) : ∃ inner, v = .table inner := by
  have htable := h g hg
  rw [hv] at htable
  cases v with
  | table inner => exact ⟨inner, rfl⟩
  | _ => cases htable

theorem tidy_ofEntries {t : Toml.Table} (hnodup : (keys t).Nodup)
    (h : ∀ g ∈ sections, ∀ v, t.lookup g = some v → ∃ inner, v = .table inner ∧ (keys inner).Nodup)
    (mark : Mark) : Tidy (Layered.ofEntries mark t) := by
  refine ⟨by rwa [keys_ofEntries], fun g hg v hv => ?_⟩
  rw [lookup_ofEntries] at hv
  obtain ⟨w, hw, rfl⟩ := Option.map_eq_some_iff.1 hv
  obtain ⟨inner, rfl, hinner⟩ := h g hg w hw
  exact ⟨mark, Layered.ofEntries mark inner, by rw [Layered.ofToml], by rwa [keys_ofEntries]⟩

theorem tidy_of_distinct {t : Toml.Table} (hdistinct : (Toml.Value.table t).Distinct) (h : HasSections t)
    (mark : Mark) : Tidy (Layered.ofEntries mark t) := by
  cases hdistinct with
  | table hnodup hvalues =>
    refine tidy_ofEntries hnodup (fun g hg v hv => ?_) mark
    obtain ⟨inner, rfl⟩ := h.exists_eq_table hg hv
    cases hvalues _ (Keyed.mem_of_lookup hv) with
    | table hinner _ => exact ⟨inner, rfl, hinner⟩

/-- **A table** gives a leaf the value that it has for it. -/
theorem Leaf.given?_ofEntries (l : Leaf) {t : Toml.Table} (h : HasSections t) (mark : Mark) :
    l.given? (Layered.ofEntries mark t) = (l.inTable? t).map l.ofToml? := by
  have hbelow : below? (Layered.ofEntries mark t) l.group? l.key =
      (l.inTable? t).map (Layered.ofToml mark) := by
    unfold below? inTable?
    cases hg : l.group? with
    | none => exact lookup_ofEntries mark t l.key
    | some g =>
      dsimp only
      rw [lookup_ofEntries]
      cases hv : t.lookup g with
      | none => rfl
      | some v =>
        obtain ⟨inner, rfl⟩ := h.exists_eq_table (mem_sections hg) hv
        simp only [Option.map_some, Layered.ofToml]
        exact lookup_ofEntries mark inner l.key
  rw [given?, hbelow, Option.map_map]
  congr 1
  funext v
  exact l.markFree_of? mark .defaults v

/-- Numbers that fit where they are read. -/
structure InRange (s : Settings) : Prop where
  version_le : s.version ≤ limit32
  threads_le : s.extraction.parallelThreads ≤ limit64

theorem inRange_default {processors : Nat} (h : processors ≤ limit64) : (default processors).InRange :=
  ⟨by change 1 ≤ limit32; decide, h⟩

theorem lookup_section_toToml (s : Settings) {g : String} (hg : g ∈ sections) :
    ∃ inner, s.toToml.lookup g = some (.table inner) ∧ (keys inner).Nodup := by
  obtain ⟨version, root, debug, source, introspection, nullability, resolution, extraction⟩ := s
  simp only [sections, List.mem_cons, List.not_mem_nil, or_false] at hg
  rcases hg with rfl | rfl | rfl | rfl | rfl <;> cases root <;> exact ⟨_, rfl, by simp [keys]⟩

theorem hasSections_toToml (s : Settings) : HasSections s.toToml := by
  intro g hg
  obtain ⟨inner, hinner, -⟩ := s.lookup_section_toToml hg
  rw [hinner]
  rfl

theorem tidy_toToml (s : Settings) (mark : Mark) : Tidy (Layered.ofEntries mark s.toToml) := by
  refine tidy_ofEntries ?_ (fun g hg v hv => ?_) mark
  · unfold toToml
    cases s.workspaceRoot <;> simp [keys]
  · obtain ⟨inner, hinner, hnodup⟩ := s.lookup_section_toToml hg
    exact ⟨inner, Option.some.inj (hv.symm.trans hinner), hnodup⟩

theorem natural?_ofToml {n limit : Nat} (h : n ≤ limit) :
    (Layered.ofToml .defaults (.integer n)).natural? limit = some n := by
  simp [Layered.ofToml, Layered.natural?, h]

theorem items?_ofTexts {α : Type} (view : Layered → Option α) (text : α → String)
    (hview : ∀ a, view (.scalar .defaults (.text (text a))) = some a) (as : List α) :
    (Layered.ofToml .defaults (ofTexts (as.map text))).items? view = some as := by
  have hsome : view ∘ (Layered.ofToml .defaults ∘ Toml.Value.string) ∘ text = some := by
    funext a
    simpa only [Function.comp_apply, Layered.ofToml] using hview a
  rw [ofTexts, Layered.ofToml, ofItems_eq_map, Layered.items?, List.map_map, List.map_map, List.mapM_map,
    hsome]
  exact List.mapM_pure.trans (congrArg some (List.map_id as))

/-- **Settings as a table** have every leaf under its own key; only the root of the workspace can be
missing. -/
theorem Leaf.inTable?_toToml (l : Leaf) {s : Settings} (hs : s.InRange) (other : Settings)
    (hother : other.workspaceRoot = none) :
    ((l.inTable? s.toToml).map l.ofToml?).getD (some (l.get other)) = some (l.get s) := by
  obtain ⟨version, root, debug, source, introspection, nullability, resolution, extraction⟩ := s
  have htexts (ss : List String) : (Layered.ofToml .defaults (ofTexts ss)).items? Layered.text? = some ss := by
    have hitems := items?_ofTexts Layered.text? id (fun _ => rfl) ss
    rwa [List.map_id] at hitems
  cases l with
  | version => cases root <;> exact natural?_ofToml hs.version_le
  | workspaceRoot =>
    cases root with
    | none => exact congrArg some hother
    | some p => rfl
  | debug => cases root <;> rfl
  | extension => cases root <;> rfl
  | classpath => cases root <;> exact items?_ofTexts _ _ (fun _ => rfl) _
  | jdkCatalog => cases root <;> rfl
  | notNull => cases root <;> exact htexts _
  | nullable => cases root <;> exact htexts _
  | standardNamespace => cases root <;> rfl
  | packageFallback => cases root <;> rfl
  | parallelThreads => cases root <;> exact natural?_ofToml hs.threads_le

/-! ## Loading -/

/-- The table in the file that a path stands for; where there is no file the table is empty. -/
def fileTable? (files : FileTree) (p : Path) : Option Toml.Table :=
  match findFile? files p with
  | none => some []
  | some found =>
    match files.readText found with
    | .error _ => none
    | .ok source => Toml.parse? source

/-- The value of a leaf: that of the environment, or else of the file, or else the default. It is missing
if it is not of the leaf's type. -/
def Leaf.resolve? (l : Leaf) (machine : Machine) (t : Toml.Table) : Option l.Content :=
  match l.inEnvironment? machine.environment with
  | some v => l.of? v
  | none =>
    match l.inTable? t with
    | some v => l.ofToml? v
    | none => some (l.get (default machine.processors))

section Loading

variable {files : FileTree} {machine : Machine} {p : Path} {t : Toml.Table} {s : Settings}

theorem exists_fileLayer_eq (h : fileTable? files p = some t) (hsections : HasSections t) :
    ∃ mark, fileLayer files p = .ok (Layered.ofEntries mark t) ∧ Tidy (Layered.ofEntries mark t) := by
  unfold fileTable? at h
  unfold fileLayer
  cases hfound : findFile? files p with
  | none =>
    rw [hfound] at h
    cases h
    exact ⟨.defaults, by rw [Layered.ofEntries], by rw [Layered.ofEntries]; exact .nil⟩
  | some found =>
    simp only [hfound] at h ⊢
    cases hread : files.readText found with
    | error fault => rw [hread] at h; cases h
    | ok source =>
      simp only [hread] at h ⊢
      rw [h]
      exact ⟨_, rfl, tidy_of_distinct (Toml.parse?_distinct h) hsections _⟩

/-- **Loaded settings** are the ones in which every leaf is resolved. -/
theorem loadFrom_eq_ok_iff (hprocessors : machine.processors ≤ limit64)
    (hfile : fileTable? files p = some t) (hsections : HasSections t)
    (hnames : NamesLeaves machine.environment) :
    loadFrom files machine p = .ok s ↔ ∀ l : Leaf, l.resolve? machine t = some (l.get s) := by
  obtain ⟨mark, hlayer, htidy⟩ := exists_fileLayer_eq hfile hsections
  have hbase := (default machine.processors).tidy_toToml .defaults
  have hmerged := hbase.mergeEntries htidy
  have henvironment := tidy_layer hnames
  have hload : loadFrom files machine p = ofEntries (default machine.processors)
      (Layered.mergeEntries (Layered.mergeEntries
        (Layered.ofEntries .defaults (default machine.processors).toToml)
        (Layered.ofEntries mark t)) (Environment.layer machine.environment)) := by
    rw [loadFrom, hlayer]
    rfl
  rw [hload, ofEntries_eq_ok_iff (hmerged.mergeEntries henvironment)]
  refine forall_congr' fun l => ?_
  rw [l.given?_mergeEntries hmerged henvironment, l.given?_mergeEntries hbase htidy, l.given?_layer hnames,
    l.given?_ofEntries hsections, l.given?_ofEntries (hasSections_toToml _), Leaf.resolve?]
  cases l.inEnvironment? machine.environment with
  | some v => rfl
  | none =>
    cases l.inTable? t with
    | some v => rfl
    | none => exact Eq.congr (l.inTable?_toToml (inRange_default hprocessors) _ rfl) rfl

/-- A table that sets some of the leaves, each to a value of its type. -/
def SetsLeaves (t : Toml.Table) : Prop :=
  HasSections t ∧ ∀ l : Leaf, ((l.inTable? t).all fun v => (l.ofToml? v).isSome) = true

instance SetsLeaves.decidable (t : Toml.Table) : Decidable (SetsLeaves t) :=
  inferInstanceAs (Decidable (_ ∧ _))

/-- Settings are there as soon as every leaf can be resolved. -/
theorem exists_settings_iff {value? : (l : Leaf) → Option l.Content} :
    (∃ s : Settings, ∀ l, value? l = some (l.get s)) ↔ ∀ l, (value? l).isSome = true := by
  constructor
  · rintro ⟨s, hs⟩ l
    rw [hs]
    rfl
  · intro h
    refine ⟨Leaf.settings fun l => (value? l).get (h l), fun l => ?_⟩
    rw [Leaf.get_settings, Option.some_get]

/-- **Layers are resolved leaf by leaf.** Settings can be loaded exactly if the environment gives no leaf
a value of another type, and then each leaf has the value of the environment if there is one, or else
that of the file, or else the default. -/
theorem loadFrom_resolves (hprocessors : machine.processors ≤ limit64)
    (hfile : fileTable? files p = some t) (htable : SetsLeaves t)
    (hnames : NamesLeaves machine.environment) :
    ((∃ s, loadFrom files machine p = .ok s) ↔
        ∀ (l : Leaf) (v : Layered), l.inEnvironment? machine.environment = some v →
          (l.of? v).isSome = true) ∧
      ∀ s, loadFrom files machine p = .ok s → ∀ l : Leaf, l.resolve? machine t = some (l.get s) := by
  have hload := fun s => loadFrom_eq_ok_iff (s := s) hprocessors hfile htable.1 hnames
  refine ⟨?_, fun s => (hload s).1⟩
  rw [exists_congr hload, exists_settings_iff]
  refine forall_congr' fun l => ?_
  rw [Leaf.resolve?]
  cases l.inEnvironment? machine.environment with
  | some v => simp
  | none =>
    refine iff_of_true ?_ fun v hv => by cases hv
    have htyped := htable.2 l
    cases hv : l.inTable? t with
    | none => rfl
    | some v => rwa [hv] at htyped

end Loading

/-- A file with one list and a number, beside a table that is no section. -/
def partialText : String :=
  "version = 7\n[nullability]\nnot_null = [\"A\", \"B\"]\nnullable = []\n[other]\n"

def partialFiles : FileTree :=
  ⟨[(["w"], .directory), (["w", "s.toml"], .file (partialText.toList.map fun c => UInt8.ofNat c.toNat))],
    ["w"]⟩

/-- Names in several cases, two of them for one leaf, and one that is for something else. -/
def mixedMachine : Machine where
  environment := [("DOCSPEC_NULLABILITY__NOT_NULL", "[1]"), ("docspec_Debug", "true"),
    ("HOME", "/"), ("DocSpec_nullability__Not_Null", "[C]"), ("DOCSPEC_SOURCE__EXTENSION", "kt")]
  processors := 4

theorem loadFrom_resolves_overlap :
    ∃ t s, fileTable? partialFiles ⟨"s.toml"⟩ = some t ∧ SetsLeaves t ∧
      NamesLeaves mixedMachine.environment ∧ loadFrom partialFiles mixedMachine ⟨"s.toml"⟩ = .ok s ∧
      s.version = 7 ∧ s.debug = true ∧ s.source.extension = "kt" ∧ s.nullability.notNull = ["C"] ∧
      s.nullability.nullable = [] ∧ s.extraction.parallelThreads = 4 := by
  have hnames : NamesLeaves mixedMachine.environment := by decide +kernel
  have htyped : ∀ l : Leaf, ((l.inEnvironment? mixedMachine.environment).all
      fun v => (l.of? v).isSome) = true := by
    decide +kernel
  have hchecked : (fileTable? partialFiles ⟨"s.toml"⟩).any (fun t => decide (SetsLeaves t ∧
      Leaf.version.resolve? mixedMachine t = some 7 ∧ Leaf.debug.resolve? mixedMachine t = some true ∧
      Leaf.extension.resolve? mixedMachine t = some "kt" ∧
      Leaf.notNull.resolve? mixedMachine t = some ["C"] ∧
      Leaf.nullable.resolve? mixedMachine t = some [] ∧
      Leaf.parallelThreads.resolve? mixedMachine t = some 4)) = true := by
    decide +kernel
  obtain ⟨t, hfile, ht⟩ := (Option.any_eq_true _ _).1 hchecked
  obtain ⟨hsets, hversion, hdebug, hextension, hnotNull, hnullable, hthreads⟩ := of_decide_eq_true ht
  obtain ⟨hexists, hresolve⟩ := loadFrom_resolves (by decide) hfile hsets hnames
  obtain ⟨s, hs⟩ := hexists.2 fun l v hv => by simpa [hv] using htyped l
  have hleaf := hresolve s hs
  exact ⟨t, s, hfile, hsets, hnames, hs, Option.some.inj ((hleaf .version).symm.trans hversion),
    Option.some.inj ((hleaf .debug).symm.trans hdebug),
    Option.some.inj ((hleaf .extension).symm.trans hextension),
    Option.some.inj ((hleaf .notNull).symm.trans hnotNull),
    Option.some.inj ((hleaf .nullable).symm.trans hnullable),
    Option.some.inj ((hleaf .parallelThreads).symm.trans hthreads)⟩

end MemberSpec.Settings
