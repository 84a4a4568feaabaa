import Mathlib
import MemberSpec.Proofs.Spelling

/-!
# Chains of bounds

Erasure takes a written type for the first type parameter that has its last segment as name, and goes on
with the first bound of that parameter. The bound may name a parameter again, so a chain of types is met.
Erasure stops after as many replacements as there are parameters, and a parameter met then stands for
itself.

The bound is exact. The way on from a type depends on its last segment only, so a chain that meets a name
twice goes round for ever (`OnCycle.along`). A chain that ends meets every name once, so it has no more
replacements than there are parameters, and fewer if it ends at a parameter (`Chain.depth_lt`). A chain
that goes round is on its cycle when it is cut off (`Chain.onCycle`).

* `Chain.eraseWithin`: along a chain, erasure collects the dimensions of the types that it leaves.
* `Chain.eraseWithin_of_endsIn`: a chain that ends is followed to its end.
* `erase_along_chain`: what erasure gives for chains that end and for chains that go round.
-/

namespace MemberSpec.Erasure

open Text Source

variable {parameters : List TypeParameter} {w b t x y : String} {ts us : List String}

/-- The parameter that a written type is taken for. -/
def parameter? (parameters : List TypeParameter) (w : String) : Option TypeParameter :=
  parameters.find? (·.name == (headOf w).1)

/-- The type that takes the place of a written type. -/
def bound? (parameters : List TypeParameter) (w : String) : Option String :=
  (parameter? parameters w).bind (·.bounds.head?)

/-- From `w` on, the types `ts` are met, each with a bound in its place, and then `t`. -/
inductive Chain (parameters : List TypeParameter) : String → List String → String → Prop where
  | refl (w : String) : Chain parameters w [] w
  | step {w b t : String} {ts : List String} :
      bound? parameters w = some b → Chain parameters b ts t → Chain parameters w (w :: ts) t

/-- A chain ends at a type that is no parameter, which keeps its name, or at a parameter without bounds. -/
inductive EndsIn (parameters : List TypeParameter) (t : String) : String → Prop where
  | type : parameter? parameters t = none → EndsIn parameters t (headOf t).1
  | unbounded {p : TypeParameter} :
      parameter? parameters t = some p → p.bounds = [] → EndsIn parameters t "Object"

/-- The bound of a type leads to a type of the same name again. -/
def OnCycle (parameters : List TypeParameter) (x : String) : Prop :=
  ∃ b us y, bound? parameters x = some b ∧ Chain parameters b us y ∧ (headOf y).1 = (headOf x).1

/-- The chain from a type goes round. -/
def Cycles (parameters : List TypeParameter) (w : String) : Prop :=
  ∃ ts x, Chain parameters w ts x ∧ OnCycle parameters x

/-- The dimensions that are written at the types of a chain. -/
def dimensionsMet (ts : List String) : Nat := (ts.map fun t => (headOf t).2).sum

theorem of_parameter?_eq_some {p : TypeParameter} (h : parameter? parameters w = some p) :
    p ∈ parameters ∧ p.name = (headOf w).1 :=
  ⟨List.mem_of_find?_eq_some h, by simpa using List.find?_some h⟩

theorem exists_parameter (h : bound? parameters w = some b) : ∃ p, parameter? parameters w = some p := by
  obtain ⟨p, hp, -⟩ := Option.bind_eq_some_iff.1 h
  exact ⟨p, hp⟩

/-- The way on depends on the name only. -/
theorem bound?_congr (h : (headOf x).1 = (headOf y).1) : bound? parameters x = bound? parameters y := by
  unfold bound? parameter?
  rw [h]

theorem bound?_eq_none_iff : bound? parameters t = none ↔ ∃ name, EndsIn parameters t name := by
  constructor
  · intro h
    cases hp : parameter? parameters t with
    | none => exact ⟨_, .type hp⟩
    | some p =>
      rw [bound?, hp, Option.bind_some, List.head?_eq_none_iff] at h
      exact ⟨_, .unbounded hp h⟩
  · rintro ⟨name, hend⟩
    cases hend with
    | type hp => rw [bound?, hp, Option.bind_none]
    | unbounded hp hbounds => rw [bound?, hp, Option.bind_some, hbounds, List.head?_nil]

theorem EndsIn.bound?_ne_some {name : String} (h : EndsIn parameters t name) :
    ¬ ∃ b, bound? parameters t = some b := by
  rintro ⟨b, hb⟩
  rw [bound?_eq_none_iff.2 ⟨name, h⟩] at hb
  cases hb

/-! ## Erasure along a chain -/

theorem eraseWithin_bound (h : bound? parameters w = some b) (steps : Nat) :
    eraseWithin parameters (steps + 1) w =
      eraseWithin parameters steps b ++ brackets (headOf w).2 := by
  obtain ⟨⟨name, bounds⟩, hp, hbound⟩ := Option.bind_eq_some_iff.1 h
  obtain ⟨bs, hbounds⟩ := List.head?_eq_some_iff.1 hbound
  have hbounds : bounds = b :: bs := hbounds
  have hfind : parameters.find? (·.name == (headOf w).1) = some ⟨name, b :: bs⟩ := hbounds ▸ hp
  simp only [eraseWithin, hfind]

/-- **Along a chain**, erasure collects the dimensions of the types that it leaves. -/
theorem Chain.eraseWithin (h : Chain parameters w ts t) (steps : Nat) :
    eraseWithin parameters (ts.length + steps) w =
      eraseWithin parameters steps t ++ brackets (dimensionsMet ts) := by
  induction h with
  | refl w => simp [dimensionsMet, brackets, repeated]
  | @step w b t ts hbound _ ih =>
    have hsteps : (w :: ts).length + steps = ts.length + steps + 1 := by
      rw [List.length_cons]
      omega
    have hmet : dimensionsMet (w :: ts) = dimensionsMet ts + (headOf w).2 := by
      rw [dimensionsMet, List.map_cons, List.sum_cons, Nat.add_comm]
      rfl
    rw [hsteps, eraseWithin_bound hbound, ih, hmet, brackets_add, String.append_assoc]

theorem dimensionsMet_concat (ts : List String) (t : String) :
    dimensionsMet (ts ++ [t]) = (headOf t).2 + dimensionsMet ts := by
  simp [dimensionsMet, Nat.add_comm]

/-- A type where the chain ends is erased in place, as long as a step is left for a parameter. -/
theorem EndsIn.eraseWithin {name : String} (h : EndsIn parameters t name) {steps : Nat}
    (hsteps : (parameter? parameters t).isSome → 0 < steps) :
    eraseWithin parameters steps t = name ++ brackets (headOf t).2 := by
  cases h with
  | type hp =>
    refine eraseWithin_of_forall_ne (fun v hv => ?_) steps
    simpa using List.find?_eq_none.1 hp v hv
  | @unbounded p hp hbounds =>
    obtain ⟨name, bounds⟩ := p
    have hbounds : bounds = [] := hbounds
    have hfind : parameters.find? (·.name == (headOf t).1) = some ⟨name, []⟩ := hbounds ▸ hp
    have hpos : 0 < steps := hsteps (by rw [hp]; rfl)
    obtain ⟨steps, rfl⟩ : ∃ m, steps = m + 1 := ⟨steps - 1, by omega⟩
    simp only [Erasure.eraseWithin, hfind]
    rfl

/-! ## Chains that go round -/

theorem Chain.trans (h : Chain parameters w ts x) (h' : Chain parameters x us t) :
    Chain parameters w (ts ++ us) t := by
  induction h with
  | refl w => exact h'
  | step hbound _ ih => exact .step hbound (ih h')

theorem Chain.exists_of_mem (h : Chain parameters w ts t) (hy : y ∈ ts ++ [t]) :
    ∃ us, Chain parameters w us y := by
  induction h with
  | refl w =>
    rw [List.nil_append, List.mem_singleton] at hy
    rw [hy]
    exact ⟨[], .refl w⟩
  | step hbound _ ih =>
    rcases List.mem_cons.1 hy with rfl | hy
    · exact ⟨[], .refl _⟩
    · obtain ⟨us, hus⟩ := ih hy
      exact ⟨_, .step hbound hus⟩

theorem Chain.exists_bound (h : Chain parameters w ts t) (hx : x ∈ ts) :
    ∃ b, bound? parameters x = some b := by
  induction h with
  | refl w => cases hx
  | step hbound _ ih =>
    rcases List.mem_cons.1 hx with rfl | hx
    · exact ⟨_, hbound⟩
    · exact ih hx

/-- With a type, the bound in its place is on the cycle. -/
theorem OnCycle.next (h : OnCycle parameters x) (hb : bound? parameters x = some b) :
    OnCycle parameters b := by
  obtain ⟨b', us, y, hb', hchain, hname⟩ := h
  obtain rfl : b' = b := Option.some.inj (hb'.symm.trans hb)
  -- the type at the end of the round has the name of `x`, so its bound is `b` again
  have hback : bound? parameters y = some b' := (bound?_congr hname).trans hb
  cases hchain with
  | refl => exact ⟨b', [], b', hback, .refl b', rfl⟩
  | step hbound hrest => exact ⟨_, _, b', hbound, hrest.trans (.step hback (.refl b')), rfl⟩

theorem OnCycle.along (h : OnCycle parameters x) (hchain : Chain parameters x ts t) :
    OnCycle parameters t := by
  induction hchain with
  | refl => exact h
  | step hbound _ ih => exact ih (h.next hbound)

theorem OnCycle.exists_bound (h : OnCycle parameters x) : ∃ b, bound? parameters x = some b := by
  obtain ⟨b, -, -, hb, -⟩ := h
  exact ⟨b, hb⟩

/-- A chain that does not end on a cycle meets every name once. -/
theorem Chain.nodup (h : Chain parameters w ts t) (ht : ¬ OnCycle parameters t) :
    ((ts ++ [t]).map fun t => (headOf t).1).Nodup := by
  induction h with
  | refl w => simp
  | @step w b t ts hbound hchain ih =>
    rw [List.cons_append, List.map_cons, List.nodup_cons]
    refine ⟨fun hmem => ?_, ih ht⟩
    obtain ⟨y, hy, hname⟩ := List.mem_map.1 hmem
    obtain ⟨us, hus⟩ := hchain.exists_of_mem hy
    have hcycle : OnCycle parameters w := ⟨b, us, y, hbound, hus, hname⟩
    exact ht (hcycle.along (.step hbound hchain))

/-- There are no more different names of parameters than parameters. -/
theorem length_le_of_nodup {l : List String} (hnodup : (l.map fun t => (headOf t).1).Nodup)
    (h : ∀ x ∈ l, (parameter? parameters x).isSome) : l.length ≤ parameters.length := by
  have hsub : (l.map fun t => (headOf t).1) ⊆ parameters.map TypeParameter.name := by
    intro name hmem
    obtain ⟨x, hx, rfl⟩ := List.mem_map.1 hmem
    obtain ⟨p, hp⟩ := Option.isSome_iff_exists.1 (h x hx)
    obtain ⟨hparameter, hname⟩ := of_parameter?_eq_some hp
    exact hname ▸ List.mem_map_of_mem hparameter
  simpa using (List.subperm_of_subset hnodup hsub).length_le

/-- **No parameter is met too late.** A chain that does not end on a cycle has at most one replacement
for each parameter, and fewer if it ends at a parameter. -/
theorem Chain.depth_lt (h : Chain parameters w ts t) (ht : ¬ OnCycle parameters t) :
    ts.length ≤ parameters.length ∧
      ((parameter? parameters t).isSome → ts.length < parameters.length) := by
  have hnodup := h.nodup ht
  have hmet : ∀ x ∈ ts, (parameter? parameters x).isSome := by
    intro x hx
    obtain ⟨b, hb⟩ := h.exists_bound hx
    obtain ⟨p, hp⟩ := exists_parameter hb
    rw [hp]
    rfl
  constructor
  · rw [List.map_append] at hnodup
    exact length_le_of_nodup hnodup.of_append_left hmet
  · intro hlast
    have hall : ∀ x ∈ ts ++ [t], (parameter? parameters x).isSome := by
      intro x hx
      rcases List.mem_append.1 hx with hx | hx
      · exact hmet x hx
      · exact List.mem_singleton.1 hx ▸ hlast
    simpa using length_le_of_nodup hnodup hall

/-- The parameters that a chain meets are met at depths below their number. -/
theorem Chain.getElem?_depth_lt (h : Chain parameters w ts t) (ht : ¬ OnCycle parameters t) {depth : Nat}
    (hx : (ts ++ [t])[depth]? = some x) (hsome : (parameter? parameters x).isSome) :
    depth < parameters.length := by
  obtain ⟨hle, hlt⟩ := h.depth_lt ht
  have hdepth : depth < ts.length + 1 := by
    simpa using (List.getElem?_eq_some_iff.1 hx).1
  rcases Nat.lt_or_ge depth ts.length with hbefore | hafter
  · omega
  · obtain rfl : depth = ts.length := by omega
    rw [List.getElem?_concat_length, Option.some.injEq] at hx
    exact hlt (hx ▸ hsome)

theorem EndsIn.not_onCycle {name : String} (h : EndsIn parameters t name) : ¬ OnCycle parameters t :=
  fun hcycle => h.bound?_ne_some hcycle.exists_bound

/-- **A chain that ends is followed to its end**, if there is a replacement for each parameter. -/
theorem Chain.eraseWithin_of_endsIn {name : String} (h : Chain parameters w ts t)
    (hend : EndsIn parameters t name) {steps : Nat} (hsteps : parameters.length ≤ steps) :
    Erasure.eraseWithin parameters steps w = name ++ brackets (dimensionsMet (ts ++ [t])) := by
  obtain ⟨hle, hlt⟩ := h.depth_lt hend.not_onCycle
  have hrun := h.eraseWithin (steps - ts.length)
  have hlast : Erasure.eraseWithin parameters (steps - ts.length) t =
      name ++ brackets (headOf t).2 := by
    refine hend.eraseWithin fun hsome => ?_
    have := hlt hsome
    omega
  rw [show ts.length + (steps - ts.length) = steps by omega, hlast] at hrun
  rw [hrun, dimensionsMet_concat, brackets_add, String.append_assoc]

/-- **After one replacement for each parameter, a chain that goes round is on its cycle.** -/
theorem Chain.onCycle (h : Chain parameters w ts t) (hlength : ts.length = parameters.length)
    (hbound : bound? parameters t = some b) : OnCycle parameters t := by
  by_contra ht
  obtain ⟨p, hp⟩ := exists_parameter hbound
  have hlt := (h.depth_lt ht).2 (by rw [hp]; rfl)
  omega

theorem Cycles.next (h : Cycles parameters w) (hb : bound? parameters w = some b) :
    Cycles parameters b := by
  obtain ⟨ts, x, hchain, hx⟩ := h
  cases hchain with
  | refl => exact ⟨[], b, .refl b, hx.next hb⟩
  | step hbound hrest =>
    obtain rfl := Option.some.inj (hbound.symm.trans hb)
    exact ⟨_, x, hrest, hx⟩

theorem Cycles.along (h : Cycles parameters w) (hchain : Chain parameters w ts t) :
    Cycles parameters t := by
  induction hchain with
  | refl => exact h
  | step hbound _ ih => exact ih (h.next hbound)

theorem Cycles.exists_bound (h : Cycles parameters w) : ∃ b, bound? parameters w = some b := by
  obtain ⟨ts, x, hchain, hx⟩ := h
  cases hchain with
  | refl => exact hx.exists_bound
  | step hbound _ => exact ⟨_, hbound⟩

/-- A chain that does not end has as many replacements as one likes. -/
theorem exists_chain_of_not_ends (h : ¬ ∃ ts t name, Chain parameters w ts t ∧ EndsIn parameters t name)
    (n : Nat) : ∃ ts t b, Chain parameters w ts t ∧ ts.length = n ∧ bound? parameters t = some b := by
  have hgoes : ∀ {ts t}, Chain parameters w ts t → ∃ b, bound? parameters t = some b := by
    intro ts t hchain
    rw [← Option.ne_none_iff_exists', Ne, bound?_eq_none_iff]
    rintro ⟨name, hend⟩
    exact h ⟨ts, t, name, hchain, hend⟩
  induction n with
  | zero =>
    obtain ⟨b, hb⟩ := hgoes (.refl w)
    exact ⟨[], w, b, .refl w, rfl, hb⟩
  | succ n ih =>
    obtain ⟨ts, t, b, hchain, hlength, hb⟩ := ih
    have hlonger : Chain parameters w (ts ++ [t]) b := hchain.trans (.step hb (.refl b))
    obtain ⟨b', hb'⟩ := hgoes hlonger
    exact ⟨_, _, b', hlonger, by rw [List.length_append, hlength, List.length_singleton], hb'⟩

/-- A chain goes round or it ends, and not both. -/
theorem cycles_iff_not_ends :
    Cycles parameters w ↔ ¬ ∃ ts t name, Chain parameters w ts t ∧ EndsIn parameters t name := by
  constructor
  · rintro h ⟨ts, t, name, hchain, hend⟩
    exact hend.bound?_ne_some (h.along hchain).exists_bound
  · intro h
    obtain ⟨ts, t, b, hchain, hlength, hb⟩ := exists_chain_of_not_ends h parameters.length
    exact ⟨ts, t, hchain, hchain.onCycle hlength hb⟩

/-- **The depth bound of erasure is exact.** For a chain that ends, erasure gives the name at its end and
all dimensions met, however large the bound is, and no parameter is met when all replacements are used
up. For a chain that goes round, it gives the name of a parameter on the cycle and the dimensions met so
far. Every chain is of one of these two kinds. -/
theorem erase_along_chain (parameters : List TypeParameter) (w : String) :
    (∀ ts t name, Chain parameters w ts t → EndsIn parameters t name →
      erase parameters w = name ++ brackets (dimensionsMet (ts ++ [t])) ∧
      (∀ steps, parameters.length ≤ steps → eraseWithin parameters steps w = erase parameters w) ∧
      ∀ depth x, (ts ++ [t])[depth]? = some x → (parameter? parameters x).isSome →
        depth < parameters.length) ∧
    (Cycles parameters w → ∃ ts t p, Chain parameters w ts t ∧ ts.length = parameters.length ∧
      parameter? parameters t = some p ∧ OnCycle parameters t ∧
      erase parameters w = p.name ++ brackets (dimensionsMet (ts ++ [t]))) ∧
    (Cycles parameters w ↔ ¬ ∃ ts t name, Chain parameters w ts t ∧ EndsIn parameters t name) := by
  refine ⟨fun ts t name hchain hend => ?_, fun hcycles => ?_, cycles_iff_not_ends⟩
  · have herase : erase parameters w = name ++ brackets (dimensionsMet (ts ++ [t])) :=
      hchain.eraseWithin_of_endsIn hend le_rfl
    refine ⟨herase, fun steps hsteps => ?_, fun depth x hx hsome => ?_⟩
    · rw [hchain.eraseWithin_of_endsIn hend hsteps, herase]
    · exact hchain.getElem?_depth_lt hend.not_onCycle hx hsome
  · obtain ⟨ts, t, b, hchain, hlength, hb⟩ :=
      exists_chain_of_not_ends (cycles_iff_not_ends.1 hcycles) parameters.length
    obtain ⟨p, hp⟩ := exists_parameter hb
    have hrun := hchain.eraseWithin 0
    refine ⟨ts, t, p, hchain, hlength, hp, hchain.onCycle hlength hb, ?_⟩
    rw [Nat.add_zero, hlength] at hrun
    rw [erase, hrun, eraseWithin, (of_parameter?_eq_some hp).2, dimensionsMet_concat, brackets_add,
      String.append_assoc]

/-- `<A extends C[][], B, C extends acme.B<A>[], C extends A>`, where the second `C` is never looked up, with
`<X extends Y[], Y extends Z, Z extends Y[]>`, where the chain goes round behind `X`. -/
def chainParameters : List TypeParameter :=
  [⟨"A", ["C[][]"]⟩, ⟨"B", []⟩, ⟨"C", ["acme . B < A >[]"]⟩, ⟨"C", ["A"]⟩,
   ⟨"X", ["Y[]"]⟩, ⟨"Y", ["Z"]⟩, ⟨"Z", ["Y[]"]⟩]

theorem erase_along_chain_forward :
    Chain chainParameters "A[]" ["A[]", "C[][]"] "acme . B < A >[]" ∧
      EndsIn chainParameters "acme . B < A >[]" "Object" ∧
      erase chainParameters "A[]" = "Object" ++ brackets 4 ∧
      Cycles chainParameters "X[]" ∧
      ∃ ts t p, Chain chainParameters "X[]" ts t ∧ ts.length = 7 ∧
        parameter? chainParameters t = some p ∧ OnCycle chainParameters t ∧
        erase chainParameters "X[]" = p.name ++ brackets (dimensionsMet (ts ++ [t])) := by
  have hchain : Chain chainParameters "A[]" ["A[]", "C[][]"] "acme . B < A >[]" :=
    .step (by decide +kernel) (.step (by decide +kernel) (.refl _))
  have hend : EndsIn chainParameters "acme . B < A >[]" "Object" :=
    .unbounded (p := ⟨"B", []⟩) (by decide +kernel) rfl
  have hmet : dimensionsMet (["A[]", "C[][]"] ++ ["acme . B < A >[]"]) = 4 := by decide +kernel
  have herase := ((erase_along_chain chainParameters "A[]").1 _ _ _ hchain hend).1
  rw [hmet] at herase
  have hround : OnCycle chainParameters "Y[]" :=
    ⟨"Z", ["Z"], "Y[]", by decide +kernel, .step (by decide +kernel) (.refl _), rfl⟩
  have hcycles : Cycles chainParameters "X[]" :=
    ⟨["X[]"], "Y[]", .step (by decide +kernel) (.refl _), hround⟩
  exact ⟨hchain, hend, herase, hcycles, (erase_along_chain chainParameters "X[]").2.1 hcycles⟩

end MemberSpec.Erasure
