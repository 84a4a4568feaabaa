import Mathlib
import MemberSpec.Source.Parse

/-!
# What patterns build

A match of a pattern builds a row of trees, and the trees keep the tokens that were matched
(`run_builds`, `treeOf_builds`). What the trees look like can then be read off the patterns, by tests
that run over a grammar once:

* `Each`: every tree of the row passes a test on its kind, its role and the pattern of its children.
* `Gives`: some tree of the row passes a test on its kind and its role.
* `AllNodes`: the patterns below every node pass a test, so that the nodes of a whole tree have a
  property (`Builds.everywhere`).
-/

namespace MemberSpec.Source

namespace Tree

theorem tokensAll_eq_flatMap (ts : List Tree) : tokensAll ts = ts.flatMap tokens := by
  induction ts with
  | nil => rfl
  | cons t ts ih => rw [tokensAll, ih, List.flatMap_cons]

theorem tokensAll_append (ts us : List Tree) : tokensAll (ts ++ us) = tokensAll ts ++ tokensAll us := by
  rw [tokensAll_eq_flatMap, tokensAll_eq_flatMap, tokensAll_eq_flatMap, List.flatMap_append]

@[simp] theorem tokens_withRole (role : Role) (t : Tree) : (t.withRole role).tokens = t.tokens := by
  cases t <;> rfl

theorem tokensAll_map_withRole (role : Role) (ts : List Tree) :
    tokensAll (ts.map (withRole role)) = tokensAll ts := by
  rw [tokensAll_eq_flatMap, tokensAll_eq_flatMap, List.flatMap_map]
  simp only [tokens_withRole]

end Tree

namespace Pattern

variable {ρ : Type} {grammar : ρ → Pattern ρ} {p : Pattern ρ} {ts : List Tree}

/-- The rows of trees that a pattern can build, with a case for each way to match it. -/
inductive Builds (grammar : ρ → Pattern ρ) : Pattern ρ → List Tree → Prop where
  | empty : Builds grammar .empty []
  | token {t : Terminal} (u : Token) :
      t.accepts u = true → Builds grammar (.token t) [.leaf u]
  | seq {p q : Pattern ρ} {ts us : List Tree} :
      Builds grammar p ts → Builds grammar q us → Builds grammar (.seq p q) (ts ++ us)
  | first {p q : Pattern ρ} {ts : List Tree} :
      Builds grammar p ts → Builds grammar (.choice p q) ts
  | second {p q : Pattern ρ} {ts : List Tree} :
      Builds grammar q ts → Builds grammar (.choice p q) ts
  | stop {p : Pattern ρ} : Builds grammar (.many p) []
  | more {p : Pattern ρ} {ts us : List Tree} :
      Builds grammar p ts → Builds grammar (.many p) us → Builds grammar (.many p) (ts ++ us)
  | node {p : Pattern ρ} {ts : List Tree} (kind : NodeKind) :
      Builds grammar p ts → Builds grammar (.node kind p) [.node kind none ts]
  | role {p : Pattern ρ} {ts : List Tree} (role : Role) :
      Builds grammar p ts → Builds grammar (.role role p) (ts.map (Tree.withRole role))
  | refusing {p : Pattern ρ} : Builds grammar (.refusing p) []
  | rule {r : ρ} {ts : List Tree} : Builds grammar (grammar r) ts → Builds grammar (.rule r) ts

theorem found_behind {ts us : List Tree} {n : Nat} {o : Outcome} {next : Cursor}
    (h : (o.behind ts n).found = Option.some (us, next)) :
    ∃ more, o.found = Option.some (more, next) ∧ us = ts ++ more := by
  obtain ⟨⟨more, place⟩, ho, heq⟩ := Option.map_eq_some_iff.1 h
  rw [Prod.mk.injEq] at heq
  obtain ⟨rfl, rfl⟩ := heq
  exact ⟨more, ho, rfl⟩

theorem found_mapTrees {f : List Tree → List Tree} {us : List Tree} {o : Outcome} {next : Cursor}
    (h : (o.mapTrees f).found = Option.some (us, next)) :
    ∃ ts, o.found = Option.some (ts, next) ∧ us = f ts := by
  obtain ⟨⟨ts, place⟩, ho, heq⟩ := Option.map_eq_some_iff.1 h
  rw [Prod.mk.injEq] at heq
  obtain ⟨rfl, rfl⟩ := heq
  exact ⟨ts, ho, rfl⟩

/-- **A match builds trees of the matched tokens**, in one of the ways of its pattern. -/
theorem run_builds {fuel : Nat} {place next : Cursor}
    (h : (run grammar fuel p place).found = Option.some (ts, next)) :
    Builds grammar p ts ∧ place.rest = Tree.tokensAll ts ++ next.rest := by
  induction fuel generalizing p place next ts with
  | zero => cases h
  | succ fuel ih =>
    cases p with
    | empty =>
      cases h
      exact ⟨.empty, rfl⟩
    | never => cases h
    | token t =>
      rw [run] at h
      split at h
      · rename_i first rest hrest
        split at h
        · rename_i haccepts
          cases h
          exact ⟨.token first haccepts, hrest⟩
        · cases h
      · cases h
    | seq p q =>
      rw [run] at h
      split at h
      · rename_i hnone
        rw [hnone] at h
        cases h
      · rename_i trees middle hfirst
        obtain ⟨more, hmore, rfl⟩ := found_behind h
        obtain ⟨hp, hplace⟩ := ih hfirst
        obtain ⟨hq, hmiddle⟩ := ih hmore
        refine ⟨.seq hp hq, ?_⟩
        rw [hplace, hmiddle, Tree.tokensAll_append, List.append_assoc]
    | choice p q =>
      rw [run] at h
      split at h
      · obtain ⟨more, hmore, rfl⟩ := found_behind h
        obtain ⟨hq, hplace⟩ := ih hmore
        exact ⟨.second hq, hplace⟩
      · obtain ⟨hp, hplace⟩ := ih h
        exact ⟨.first hp, hplace⟩
    | many p =>
      rw [run] at h
      split at h
      · cases h
        exact ⟨.stop, rfl⟩
      · rename_i trees middle hfirst
        obtain ⟨hp, hplace⟩ := ih hfirst
        split at h
        · cases h
          refine ⟨?_, hplace⟩
          have hmore := hp.more (.stop (p := p))
          rwa [List.append_nil] at hmore
        · obtain ⟨more, hmore, rfl⟩ := found_behind h
          obtain ⟨hq, hmiddle⟩ := ih hmore
          refine ⟨.more hp hq, ?_⟩
          rw [hplace, hmiddle, Tree.tokensAll_append, List.append_assoc]
    | node kind p =>
      rw [run] at h
      obtain ⟨trees, htrees, rfl⟩ := found_mapTrees h
      obtain ⟨hp, hplace⟩ := ih htrees
      refine ⟨.node kind hp, ?_⟩
      rw [hplace, Tree.tokensAll, Tree.tokensAll, Tree.tokens, List.append_nil]
    | role r p =>
      rw [run] at h
      obtain ⟨trees, htrees, rfl⟩ := found_mapTrees h
      obtain ⟨hp, hplace⟩ := ih htrees
      refine ⟨.role r hp, ?_⟩
      rw [hplace, Tree.tokensAll_map_withRole]
    | refusing p =>
      rw [run] at h
      split at h
      · cases h
        exact ⟨.refusing, rfl⟩
      · cases h
    | rule r =>
      rw [run] at h
      obtain ⟨hp, hplace⟩ := ih h
      exact ⟨.rule hp, hplace⟩

/-! ### Trees of a row -/

/-- Every tree that a pattern builds passes a test: a node by its kind, its role and the pattern of its
children. Inside a role, that role counts; rules that pass are given. -/
def Each (test : NodeKind → Option Role → Pattern ρ → Bool) (rules : Option Role → ρ → Bool) :
    Option Role → Pattern ρ → Bool
  | _, empty => true
  | _, never => true
  | _, token _ => true
  | r, seq p q => Each test rules r p && Each test rules r q
  | r, choice p q => Each test rules r p && Each test rules r q
  | r, many p => Each test rules r p
  | r, node kind p => test kind r p
  | r, role r' p => Each test rules (r.or (Option.some r')) p
  | _, refusing _ => true
  | r, rule x => rules r x

/-- A tree inside a role, if there is one. -/
def inRole (r : Option Role) (t : Tree) : Tree := r.elim t t.withRole

theorem inRole_withRole (r : Option Role) (r' : Role) (t : Tree) :
    inRole r (t.withRole r') = inRole (r.or (Option.some r')) t := by
  cases r <;> cases t <;> rfl

theorem Builds.each {test : NodeKind → Option Role → Pattern ρ → Bool}
    {rules : Option Role → ρ → Bool} {P : Tree → Prop} {r : Option Role}
    (hleaf : ∀ u, P (.leaf u))
    (htest : ∀ kind r p ts, test kind r p = true → Builds grammar p ts → P (.node kind r ts))
    (hrules : ∀ r x, rules r x = true → Each test rules r (grammar x) = true)
    (h : Builds grammar p ts) (hp : Each test rules r p = true) :
    ∀ t ∈ ts, P (inRole r t) := by
  induction h generalizing r with
  | empty => simp
  | token u =>
    intro t ht
    rw [List.mem_singleton.1 ht]
    cases r <;> exact hleaf u
  | seq _ _ ihp ihq =>
    rw [Each, Bool.and_eq_true] at hp
    intro t ht
    rcases List.mem_append.1 ht with ht | ht
    · exact ihp hp.1 t ht
    · exact ihq hp.2 t ht
  | more _ _ ihp ihq =>
    intro t ht
    rcases List.mem_append.1 ht with ht | ht
    · exact ihp hp t ht
    · exact ihq hp t ht
  | first _ ih =>
    rw [Each, Bool.and_eq_true] at hp
    exact ih hp.1
  | second _ ih =>
    rw [Each, Bool.and_eq_true] at hp
    exact ih hp.2
  | stop | refusing => simp
  | node kind hts _ =>
    intro t ht
    rw [List.mem_singleton.1 ht]
    rw [Each] at hp
    cases r with
    | none => exact htest kind none _ _ hp hts
    | some r => exact htest kind (Option.some r) _ _ hp hts
  | role r' _ ih =>
    rw [Each] at hp
    intro t ht
    obtain ⟨u, hu, rfl⟩ := List.mem_map.1 ht
    rw [inRole_withRole]
    exact ih hp u hu
  | rule _ ih => exact ih (hrules _ _ hp)

/-- Some tree that a pattern builds is a node that passes a test on its kind and its role. Rules that
pass are given. -/
def Gives (test : NodeKind → Option Role → Bool) (rules : Option Role → ρ → Bool) :
    Option Role → Pattern ρ → Bool
  | r, seq p q => Gives test rules r p || Gives test rules r q
  | r, choice p q => Gives test rules r p && Gives test rules r q
  | r, node kind _ => test kind r
  | r, role r' p => Gives test rules (r.or (Option.some r')) p
  | r, rule x => rules r x
  | _, _ => false

theorem Builds.gives {test : NodeKind → Option Role → Bool} {rules : Option Role → ρ → Bool}
    {P : Tree → Prop} {r : Option Role}
    (htest : ∀ kind r ts, test kind r = true → P (.node kind r ts))
    (hrules : ∀ r x, rules r x = true → Gives test rules r (grammar x) = true)
    (h : Builds grammar p ts) (hp : Gives test rules r p = true) : ∃ t ∈ ts, P (inRole r t) := by
  induction h generalizing r with
  | seq _ _ ihp ihq =>
    rw [Gives, Bool.or_eq_true] at hp
    rcases hp with hp | hp
    · obtain ⟨t, ht, hrole⟩ := ihp hp
      exact ⟨t, List.mem_append_left _ ht, hrole⟩
    · obtain ⟨t, ht, hrole⟩ := ihq hp
      exact ⟨t, List.mem_append_right _ ht, hrole⟩
  | first _ ih =>
    rw [Gives, Bool.and_eq_true] at hp
    exact ih hp.1
  | second _ ih =>
    rw [Gives, Bool.and_eq_true] at hp
    exact ih hp.2
  | node kind hts _ =>
    rw [Gives] at hp
    refine ⟨_, List.mem_singleton_self _, ?_⟩
    cases r with
    | none => exact htest kind none _ hp
    | some r => exact htest kind (Option.some r) _ hp
  | role r' _ ih =>
    rw [Gives] at hp
    obtain ⟨t, ht, hPt⟩ := ih hp
    refine ⟨_, List.mem_map_of_mem ht, ?_⟩
    rwa [inRole_withRole]
  | rule _ ih => exact ih (hrules _ _ hp)
  | _ => cases hp

/-- A pattern that takes a token with a certain text. -/
def Takes (text : String) : Pattern ρ → Bool
  | token (.exact text') => text' == text
  | seq p q => Takes text p || Takes text q
  | choice p q => Takes text p && Takes text q
  | node _ p => Takes text p
  | role _ p => Takes text p
  | _ => false

theorem Builds.takes {text : String} (h : Builds grammar p ts) (hp : p.Takes text = true) :
    ∃ u ∈ Tree.tokensAll ts, u.text = text := by
  induction h with
  | @token t u haccepts =>
    cases t with
    | exact text' =>
      rw [Takes, beq_iff_eq] at hp
      rw [Terminal.accepts, beq_iff_eq] at haccepts
      exact ⟨u, by simp [Tree.tokensAll, Tree.tokens], haccepts.trans hp⟩
    | _ => cases hp
  | seq _ _ ihp ihq =>
    rw [Takes, Bool.or_eq_true] at hp
    rw [Tree.tokensAll_append]
    rcases hp with hp | hp
    · obtain ⟨u, hu, htext⟩ := ihp hp
      exact ⟨u, List.mem_append_left _ hu, htext⟩
    · obtain ⟨u, hu, htext⟩ := ihq hp
      exact ⟨u, List.mem_append_right _ hu, htext⟩
  | first _ ih =>
    rw [Takes, Bool.and_eq_true] at hp
    exact ih hp.1
  | second _ ih =>
    rw [Takes, Bool.and_eq_true] at hp
    exact ih hp.2
  | node kind _ ih =>
    rw [Tree.tokensAll, Tree.tokensAll, List.append_nil, Tree.tokens]
    exact ih hp
  | role r _ ih =>
    rw [Tree.tokensAll_map_withRole]
    exact ih hp
  | _ => cases hp

/-! ### Nodes of a tree -/

/-- The pattern below every node of a pattern passes a test. -/
def AllNodes (test : NodeKind → Pattern ρ → Bool) : Pattern ρ → Bool
  | seq p q => AllNodes test p && AllNodes test q
  | choice p q => AllNodes test p && AllNodes test q
  | many p => AllNodes test p
  | node kind p => test kind p && AllNodes test p
  | role _ p => AllNodes test p
  | _ => true

end Pattern

/-- Every node of a tree has a property of its kind and its children. -/
inductive Tree.Everywhere (W : NodeKind → List Tree → Prop) : Tree → Prop where
  | leaf (u : Token) : Everywhere W (.leaf u)
  | node {kind : NodeKind} {role : Option Role} {children : List Tree} :
      W kind children → (∀ c ∈ children, Everywhere W c) → Everywhere W (.node kind role children)

namespace Tree.Everywhere

variable {W : NodeKind → List Tree → Prop} {t : Tree}

theorem withRole (h : t.Everywhere W) (role : Role) : (t.withRole role).Everywhere W := by
  cases h with
  | leaf u => exact .leaf u
  | node hnode hchildren => exact .node hnode hchildren

theorem child (h : t.Everywhere W) {c : Tree} (hc : c ∈ t.children) : c.Everywhere W := by
  cases h with
  | leaf u => cases hc
  | node _ hchildren => exact hchildren c hc

theorem holds (h : t.Everywhere W) {kind : NodeKind} (hkind : t.kind? = some kind) :
    W kind t.children := by
  cases h with
  | leaf u => cases hkind
  | node hnode _ =>
    cases hkind
    exact hnode

end Tree.Everywhere

/-- **A property of nodes that the patterns of a grammar guarantee** holds everywhere in what is built. -/
theorem Pattern.Builds.everywhere {ρ : Type} {grammar : ρ → Pattern ρ} {p : Pattern ρ}
    {ts : List Tree} {test : NodeKind → Pattern ρ → Bool} {W : NodeKind → List Tree → Prop}
    (htest : ∀ kind p ts, test kind p = true → Builds grammar p ts → W kind ts)
    (hgrammar : ∀ r, AllNodes test (grammar r) = true)
    (h : Builds grammar p ts) (hp : AllNodes test p = true) : ∀ t ∈ ts, t.Everywhere W := by
  induction h with
  | empty | stop | refusing => simp
  | token u =>
    intro t ht
    rw [List.mem_singleton.1 ht]
    exact .leaf u
  | seq _ _ ihp ihq =>
    rw [AllNodes, Bool.and_eq_true] at hp
    intro t ht
    rcases List.mem_append.1 ht with ht | ht
    · exact ihp hp.1 t ht
    · exact ihq hp.2 t ht
  | first _ ih =>
    rw [AllNodes, Bool.and_eq_true] at hp
    exact ih hp.1
  | second _ ih =>
    rw [AllNodes, Bool.and_eq_true] at hp
    exact ih hp.2
  | more _ _ ihp ihq =>
    intro t ht
    rcases List.mem_append.1 ht with ht | ht
    · exact ihp hp t ht
    · exact ihq hp t ht
  | node kind hts ih =>
    rw [AllNodes, Bool.and_eq_true] at hp
    intro t ht
    rw [List.mem_singleton.1 ht]
    exact .node (htest kind _ _ hp.1 hts) (ih hp.2)
  | role r _ ih =>
    intro t ht
    obtain ⟨u, hu, rfl⟩ := List.mem_map.1 ht
    exact (ih hp u hu).withRole r
  | rule _ ih => exact ih (hgrammar _)

/-- The tree of a source is built by the grammar from all of its tokens, in order. -/
theorem treeOf_builds {tokens : List Token} {t : Tree} (h : treeOf tokens = .ok t) :
    Pattern.Builds grammar sourceFile [t] ∧ t.tokens = tokens := by
  unfold treeOf at h
  dsimp only at h
  split at h
  · rename_i tree place hfound
    split at h
    · rename_i hrest
      cases h
      obtain ⟨hbuilds, htokens⟩ := Pattern.run_builds hfound
      rw [List.isEmpty_iff.1 hrest, List.append_nil, Tree.tokensAll, Tree.tokensAll,
        List.append_nil] at htokens
      exact ⟨hbuilds, htokens.symm⟩
    · cases h
  · cases h

/-- The tokens of a source text. -/
def tokensOf (source : String) : List Token := (Token.ofLexemes [] (Lexer.lexemes source.toList)).1

theorem parseTree_builds {source : String} {t : Tree} (h : parseTree source.toList = .ok t) :
    Pattern.Builds grammar sourceFile [t] ∧ t.tokens = tokensOf source := by
  unfold parseTree at h
  dsimp only at h
  split at h
  · rename_i tree htree
    cases h
    exact treeOf_builds htree
  · cases h

end MemberSpec.Source
