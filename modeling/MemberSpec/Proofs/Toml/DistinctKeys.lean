import Mathlib
import MemberSpec.Proofs.Keyed
import MemberSpec.Toml.Reader

/-!
# Keys of a parsed document

In the table that a text describes no key is there twice, and neither in any table inside of it. Every
statement keeps that: an entry is added only if its key is new, and all else is set in its place.

* `changeAt_distinct`: a change at the end of a path keeps keys distinct, if it does so there.
* `parse?_distinct`: the keys of a parsed table are distinct at every depth.
-/

namespace MemberSpec.Toml

open Keyed (keys)

/-- No table in the value has a key twice. -/
inductive Value.Distinct : Value → Prop where
  | string (s : String) : Distinct (.string s)
  | integer (n : Int) : Distinct (.integer n)
  | float (x : Binary64) : Distinct (.float x)
  | boolean (b : Bool) : Distinct (.boolean b)
  | datetime (written : String) : Distinct (.datetime written)
  | array {items : List Value} : (∀ v ∈ items, v.Distinct) → Distinct (.array items)
  | table {entries : Table} : (keys entries).Nodup → (∀ e ∈ entries, e.2.Distinct) →
      Distinct (.table entries)

/-- No table in an entry that is being made has a key twice. -/
inductive Node.Distinct : Node → Prop where
  | value {v : Value} : v.Distinct → Distinct (.value v)
  | table {kind : TableKind} {entries : Nodes} : (keys entries).Nodup → (∀ e ∈ entries, e.2.Distinct) →
      Distinct (.table kind entries)
  | tables {items : List Nodes} : (∀ entries ∈ items, (keys entries).Nodup) →
      (∀ entries ∈ items, ∀ e ∈ entries, e.2.Distinct) → Distinct (.tables items)

/-- Entries with keys of their own, and so on inside of them. -/
structure Nodes.Distinct (entries : Nodes) : Prop where
  nodup : (keys entries).Nodup
  inner : ∀ e ∈ entries, e.2.Distinct

section Entries

variable {entries changed : Nodes} {key : String} {node : Node} {v : Value}

theorem Nodes.Distinct.nil : Nodes.Distinct [] := ⟨List.nodup_nil, fun _ he => absurd he List.not_mem_nil⟩

theorem Nodes.Distinct.setEntry (h : entries.Distinct) (hnode : node.Distinct) :
    Nodes.Distinct (setEntry key node entries) := by
  rw [Keyed.toml_setEntry_eq]
  refine ⟨Keyed.nodup_keys_set h.nodup, fun e he => ?_⟩
  rcases Keyed.mem_set he with rfl | he
  · exact hnode
  · exact h.inner e he

theorem Nodes.Distinct.of_lookup (h : entries.Distinct) (hlookup : entries.lookup key = some node) :
    node.Distinct :=
  h.inner _ (Keyed.mem_of_lookup hlookup)

/-- An entry with a new key can be added. -/
theorem Nodes.Distinct.concat (h : entries.Distinct) (hkey : ¬ (entries.lookup key).isSome = true)
    (hnode : node.Distinct) : Nodes.Distinct (entries ++ [(key, node)]) := by
  have hnone := Option.not_isSome_iff_eq_none.1 hkey
  rw [← Keyed.set_of_notMem (Keyed.lookup_eq_none_iff.1 hnone), ← Keyed.toml_setEntry_eq]
  exact h.setEntry hnode

/-- Whatever follows a path into a table keeps keys distinct, if the change at its end does. -/
theorem changeAt_distinct {byDots : Bool} {change : TableKind → Nodes → Option Nodes}
    (hchange : ∀ kind entries changed, Nodes.Distinct entries → change kind entries = some changed →
      Nodes.Distinct changed)
    {kind : TableKind} {path : List String} (h : entries.Distinct)
    (heq : changeAt byDots change kind path entries = some changed) : changed.Distinct := by
  induction path generalizing kind entries changed with
  | nil => exact hchange kind entries changed h heq
  | cons key path ih =>
    rw [changeAt] at heq
    split at heq
    · obtain ⟨inner, hinner, heq⟩ := Option.bind_eq_some_iff.1 heq
      cases heq
      have := ih .nil hinner
      exact h.setEntry (.table this.nodup this.inner)
    · rename_i kind inner hlookup
      split at heq
      · cases heq
      · obtain ⟨inner', hinner, heq⟩ := Option.bind_eq_some_iff.1 heq
        cases heq
        cases h.of_lookup hlookup with
        | table hnodup hall =>
          have := ih ⟨hnodup, hall⟩ hinner
          exact h.setEntry (.table this.nodup this.inner)
    · rename_i items hlookup
      obtain ⟨last, hlast, heq⟩ := Option.bind_eq_some_iff.1 heq
      cases heq
      cases h.of_lookup hlookup with
      | tables hnodup hall =>
        have hbefore : Nodes.Distinct (items.getLast?.getD []) := by
          cases hitems : items.getLast? with
          | none => exact .nil
          | some entries =>
            have hmem := List.mem_of_getLast? hitems
            exact ⟨hnodup entries hmem, hall entries hmem⟩
        have hlater := ih hbefore hlast
        refine h.setEntry (.tables (fun entries hmem => ?_) (fun entries hmem => ?_))
        · rcases List.mem_append.1 hmem with hmem | hmem
          · exact hnodup entries (List.mem_of_mem_dropLast hmem)
          · exact List.mem_singleton.1 hmem ▸ hlater.nodup
        · rcases List.mem_append.1 hmem with hmem | hmem
          · exact hall entries (List.mem_of_mem_dropLast hmem)
          · exact List.mem_singleton.1 hmem ▸ hlater.inner
    · cases heq

theorem assign?_distinct {kind : TableKind} {path : List String} (h : entries.Distinct)
    (hv : v.Distinct) (heq : assign? kind path v entries = some changed) : changed.Distinct := by
  rw [assign?] at heq
  split at heq
  · cases heq
  · rename_i key _
    refine changeAt_distinct (fun kind entries changed h hchange => ?_) h heq
    split at hchange
    · cases hchange
    · split at hchange
      · cases hchange
      · rename_i hkey
        cases hchange
        exact h.concat hkey (.value hv)

theorem openTable?_distinct {path : List String} (h : entries.Distinct)
    (heq : openTable? path entries = some changed) : changed.Distinct := by
  rw [openTable?] at heq
  split at heq
  · cases heq
  · refine changeAt_distinct (fun kind entries changed h hchange => ?_) h heq
    split at hchange
    · cases hchange
      exact h.setEntry (.table List.nodup_nil fun _ he => absurd he List.not_mem_nil)
    · rename_i hlookup
      cases hchange
      cases h.of_lookup hlookup with
      | table hnodup hall => exact h.setEntry (.table hnodup hall)
    · cases hchange

theorem openElement?_distinct {path : List String} (h : entries.Distinct)
    (heq : openElement? path entries = some changed) : changed.Distinct := by
  rw [openElement?] at heq
  split at heq
  · cases heq
  · refine changeAt_distinct (fun kind entries changed h hchange => ?_) h heq
    split at hchange
    · cases hchange
      refine h.setEntry (.tables (by simp [keys]) (by simp))
    · rename_i items hlookup
      cases hchange
      cases h.of_lookup hlookup with
      | tables hnodup hall =>
        refine h.setEntry (.tables (fun entries hmem => ?_) (fun entries hmem => ?_))
        · rcases List.mem_append.1 hmem with hmem | hmem
          · exact hnodup entries hmem
          · rw [List.mem_singleton.1 hmem]
            exact List.nodup_nil
        · rcases List.mem_append.1 hmem with hmem | hmem
          · exact hall entries hmem
          · rw [List.mem_singleton.1 hmem]
            exact fun _ he => absurd he List.not_mem_nil
    · cases hchange

end Entries

/-! ## What entries stand for -/

theorem keys_toTable (entries : Nodes) : keys (toTable entries) = keys entries := by
  induction entries with
  | nil => rfl
  | cons e entries ih => exact congrArg (e.1 :: ·) ih

theorem exists_of_mem_toTable {entries : Nodes} {e : String × Value} (h : e ∈ toTable entries) :
    ∃ d ∈ entries, e = (d.1, d.2.toValue) := by
  induction entries with
  | nil => cases h
  | cons d entries ih =>
    rcases List.mem_cons.1 h with rfl | h
    · exact ⟨d, List.mem_cons_self, rfl⟩
    · obtain ⟨d, hd, he⟩ := ih h
      exact ⟨d, List.mem_cons_of_mem _ hd, he⟩

theorem exists_of_mem_toTables {items : List Nodes} {v : Value} (h : v ∈ toTables items) :
    ∃ entries ∈ items, v = .table (toTable entries) := by
  induction items with
  | nil => cases h
  | cons entries items ih =>
    rcases List.mem_cons.1 h with rfl | h
    · exact ⟨entries, List.mem_cons_self, rfl⟩
    · obtain ⟨entries, hentries, hv⟩ := ih h
      exact ⟨entries, List.mem_cons_of_mem _ hentries, hv⟩

theorem Node.Distinct.toValue {node : Node} (h : node.Distinct) : node.toValue.Distinct := by
  induction h with
  | value hv => exact hv
  | table hnodup _ ih =>
    refine .table (by rwa [keys_toTable]) fun e he => ?_
    obtain ⟨d, hd, rfl⟩ := exists_of_mem_toTable he
    exact ih d hd
  | tables hnodup _ ih =>
    refine .array fun v hv => ?_
    obtain ⟨entries, hentries, rfl⟩ := exists_of_mem_toTables hv
    refine .table (by rw [keys_toTable]; exact hnodup entries hentries) fun e he => ?_
    obtain ⟨d, hd, rfl⟩ := exists_of_mem_toTable he
    exact ih entries hentries d hd

theorem Nodes.Distinct.toTable {entries : Nodes} (h : entries.Distinct) :
    (Value.table (toTable entries)).Distinct :=
  (show (Node.table .opened entries).Distinct from .table h.nodup h.inner).toValue

/-! ## What is read -/

theorem inlineTable?_distinct {assignments : List (List String × Value)} {t : Table}
    (h : ∀ a ∈ assignments, a.2.Distinct) (heq : inlineTable? assignments = some t) :
    (Value.table t).Distinct := by
  have hfold : ∀ (assignments : List (List String × Value)) (entries changed : Nodes),
      (∀ a ∈ assignments, a.2.Distinct) → entries.Distinct →
      assignments.foldlM (fun entries a => assign? .opened a.1 a.2 entries) entries = some changed →
      changed.Distinct := by
    intro assignments
    induction assignments with
    | nil =>
      intro entries changed _ hentries heq
      cases heq
      exact hentries
    | cons a assignments ih =>
      intro entries changed h hentries heq
      rw [List.foldlM_cons] at heq
      obtain ⟨next, hnext, heq⟩ := Option.bind_eq_some_iff.1 heq
      exact ih next changed (fun a ha => h a (List.mem_cons_of_mem _ ha))
        (assign?_distinct hentries (h a List.mem_cons_self) hnext) heq
  obtain ⟨entries, hentries, heq⟩ := Option.bind_eq_some_iff.1 heq
  cases heq
  exact (hfold assignments [] entries h .nil hentries).toTable

theorem scalar?_distinct {cs : List Char} {v : Value} (h : scalar? cs = some v) : v.Distinct := by
  unfold scalar? at h
  split at h
  · cases h
    exact .boolean _
  · split at h
    · cases h
      exact .boolean _
    · split at h
      · cases h
        exact .integer _
      · split at h
        · cases h
          exact .float _
        · split at h
          · cases h
            exact .datetime _
          · cases h

theorem readScalar?_distinct {cs rest : List Char} {v : Value}
    (h : readScalar? cs = some (v, rest)) : v.Distinct := by
  unfold readScalar? at h
  simp only at h
  split at h
  · split at h
    · cases h
      exact .datetime _
    · obtain ⟨v', hv, heq⟩ := Option.map_eq_some_iff.1 h
      cases heq
      exact scalar?_distinct hv
  · obtain ⟨v', hv, heq⟩ := Option.map_eq_some_iff.1 h
    cases heq
    exact scalar?_distinct hv

/-- Values, items and assignments are read together, so they are distinct together. -/
theorem value?_distinct_within (fuel : Nat) :
    (∀ depth cs v rest, value? fuel depth cs = some (v, rest) → v.Distinct) ∧
      (∀ depth cs vs rest, items? fuel depth cs = some (vs, rest) → ∀ v ∈ vs, v.Distinct) ∧
      ∀ depth cs ps rest, pairs? fuel depth cs = some (ps, rest) →
        ∀ p ∈ ps, Value.Distinct p.2 := by
  induction fuel with
  | zero =>
    refine ⟨fun depth cs v rest h => ?_, fun depth cs vs rest h => ?_, fun depth cs ps rest h => ?_⟩
    · cases h
    · cases h
    · cases h
  | succ fuel ih =>
    obtain ⟨ihValue, ihItems, ihPairs⟩ := ih
    refine ⟨fun depth cs v rest h => ?_, fun depth cs vs rest h => ?_, fun depth cs ps rest h => ?_⟩
    · unfold value? at h
      split at h
      · split at h
        · cases h
        · obtain ⟨⟨vs, more⟩, hvs, heq⟩ := Option.map_eq_some_iff.1 h
          cases heq
          exact .array (ihItems _ _ _ _ hvs)
      · split at h
        · cases h
        · dsimp only at h
          split at h
          · obtain ⟨⟨pairs, more⟩, hpairs, h⟩ := Option.bind_eq_some_iff.1 h
            obtain ⟨t, ht, h⟩ := Option.bind_eq_some_iff.1 h
            cases hpairs
            cases h
            exact inlineTable?_distinct (fun _ ha => absurd ha List.not_mem_nil) ht
          · obtain ⟨⟨pairs, more⟩, hpairs, h⟩ := Option.bind_eq_some_iff.1 h
            obtain ⟨t, ht, h⟩ := Option.bind_eq_some_iff.1 h
            cases h
            exact inlineTable?_distinct (ihPairs _ _ _ _ hpairs) ht
      · obtain ⟨⟨s, more⟩, -, heq⟩ := Option.map_eq_some_iff.1 h
        cases heq
        exact .string s
      · obtain ⟨⟨s, more⟩, -, heq⟩ := Option.map_eq_some_iff.1 h
        cases heq
        exact .string s
      · exact readScalar?_distinct h
    · rw [items?] at h
      split at h
      · cases h
        exact fun _ hv => absurd hv List.not_mem_nil
      · obtain ⟨⟨first, more⟩, hfirst, h⟩ := Option.bind_eq_some_iff.1 h
        have hdistinct := ihValue _ _ _ _ hfirst
        simp only at h
        split at h
        · obtain ⟨⟨others, more⟩, hothers, h⟩ := Option.bind_eq_some_iff.1 h
          cases h
          exact List.forall_mem_cons.2 ⟨hdistinct, ihItems _ _ _ _ hothers⟩
        · cases h
          exact List.forall_mem_singleton.2 hdistinct
        · cases h
    · rw [pairs?] at h
      obtain ⟨⟨path, more⟩, -, h⟩ := Option.bind_eq_some_iff.1 h
      obtain ⟨more, -, h⟩ := Option.bind_eq_some_iff.1 h
      obtain ⟨⟨v, more⟩, hv, h⟩ := Option.bind_eq_some_iff.1 h
      have hdistinct := ihValue _ _ _ _ hv
      simp only at h
      split at h
      · obtain ⟨⟨others, more⟩, hothers, h⟩ := Option.bind_eq_some_iff.1 h
        cases h
        exact List.forall_mem_cons.2 ⟨hdistinct, ihPairs _ _ _ _ hothers⟩
      · cases h
        exact List.forall_mem_singleton.2 hdistinct
      · cases h

/-- A statement that brings no key in twice by its value. -/
def Statement.Distinct : Statement → Prop
  | .assign _ v => v.Distinct
  | _ => True

theorem statement?_distinct {cs rest : List Char} {first : Statement}
    (h : statement? cs = some (first, rest)) : first.Distinct := by
  unfold statement? at h
  split at h
  · obtain ⟨⟨path, more⟩, -, h⟩ := Option.bind_eq_some_iff.1 h
    obtain ⟨more, -, h⟩ := Option.bind_eq_some_iff.1 h
    obtain ⟨more, -, h⟩ := Option.bind_eq_some_iff.1 h
    cases h
    trivial
  · obtain ⟨⟨path, more⟩, -, h⟩ := Option.bind_eq_some_iff.1 h
    obtain ⟨more, -, h⟩ := Option.bind_eq_some_iff.1 h
    cases h
    trivial
  · obtain ⟨⟨path, more⟩, -, h⟩ := Option.bind_eq_some_iff.1 h
    obtain ⟨more, -, h⟩ := Option.bind_eq_some_iff.1 h
    obtain ⟨⟨v, more⟩, hv, h⟩ := Option.bind_eq_some_iff.1 h
    cases h
    exact (value?_distinct_within _).1 _ _ _ _ hv

theorem statements?_distinct {fuel : Nat} {cs : List Char} {statements : List Statement}
    (h : statements? fuel cs = some statements) : ∀ s ∈ statements, s.Distinct := by
  induction fuel generalizing cs statements with
  | zero =>
    cases h
    exact fun _ hs => absurd hs List.not_mem_nil
  | succ fuel ih =>
    rw [statements?] at h
    split at h
    · cases h
      exact fun _ hs => absurd hs List.not_mem_nil
    · obtain ⟨⟨first, rest⟩, hfirst, h⟩ := Option.bind_eq_some_iff.1 h
      obtain ⟨rest, -, h⟩ := Option.bind_eq_some_iff.1 h
      obtain ⟨others, hothers, h⟩ := Option.bind_eq_some_iff.1 h
      cases h
      exact List.forall_mem_cons.2 ⟨statement?_distinct hfirst, ih hothers⟩

/-- **A statement keeps keys distinct.** -/
theorem Draft.add?_distinct {d next : Draft} {s : Statement} (h : Nodes.Distinct d.root) (hs : s.Distinct)
    (heq : d.add? s = some next) : Nodes.Distinct next.root := by
  cases s with
  | assign path v =>
    obtain ⟨root, hroot, heq⟩ := Option.bind_eq_some_iff.1 heq
    cases heq
    exact changeAt_distinct (fun kind entries changed h hchange => assign?_distinct h hs hchange) h hroot
  | header path =>
    obtain ⟨root, hroot, heq⟩ := Option.bind_eq_some_iff.1 heq
    cases heq
    exact openTable?_distinct h hroot
  | elementHeader path =>
    obtain ⟨root, hroot, heq⟩ := Option.bind_eq_some_iff.1 heq
    cases heq
    exact openElement?_distinct h hroot

theorem foldlM_add?_distinct {statements : List Statement} {d last : Draft} (h : Nodes.Distinct d.root)
    (hall : ∀ s ∈ statements, s.Distinct) (heq : statements.foldlM Draft.add? d = some last) :
    Nodes.Distinct last.root := by
  induction statements generalizing d with
  | nil =>
    cases heq
    exact h
  | cons s statements ih =>
    rw [List.foldlM_cons] at heq
    obtain ⟨next, hnext, heq⟩ := Option.bind_eq_some_iff.1 heq
    exact ih (Draft.add?_distinct h (hall s List.mem_cons_self) hnext)
      (fun s hs => hall s (List.mem_cons_of_mem _ hs)) heq

/-- **In a parsed table no key is there twice**, at any depth. -/
theorem parse?_distinct {source : String} {t : Table} (h : parse? source = some t) :
    (Value.table t).Distinct := by
  obtain ⟨statements, hstatements, h⟩ := Option.bind_eq_some_iff.1 h
  obtain ⟨last, hlast, h⟩ := Option.bind_eq_some_iff.1 h
  cases h
  exact (foldlM_add?_distinct .nil (statements?_distinct hstatements) hlast).toTable

end MemberSpec.Toml
