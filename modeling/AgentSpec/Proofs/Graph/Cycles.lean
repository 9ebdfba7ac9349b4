import AgentSpec.Proofs.Graph.ClosedPath
import AgentSpec.Proofs.Graph.Turns

/-! The cycles of a search: each is a closed path, no two end with the same edge, and without the
edges that they end with the graph has no closed path. -/
namespace AgentSpec.Graph

/-- The edge relation of a graph. -/
def Adjacent (g : Graph) (a b : Nat) : Prop := b ∈ g.next a

namespace Search

variable {g : Graph} {s : Search} {below : Array Frame} {top : Frame} {n target : Nat}

/-- Some cycle found so far ends with this edge. -/
def Closes (s : Search) (a b : Nat) : Prop := ∃ path ∈ s.cycles, EndsWith path a b

/-- The edges that no cycle found so far ends with. -/
def Remains (g : Graph) (s : Search) (a b : Nat) : Prop := g.Adjacent a b ∧ ¬ Closes s a b

/-- What is known of the cycles found so far. -/
structure Found (g : Graph) (s : Search) : Prop where
  closed : ∀ {path}, path ∈ s.cycles → ClosedPath g.Adjacent path
  closes_taken : ∀ {a b : Nat}, Closes s a b → Taken g s a b
  closes_once : s.cycles.toList.Pairwise fun p q => ∀ a b, EndsWith p a b → ¬ EndsWith q a b
  finished : ∀ {n : Nat}, s.mark n = .done → Acc (fun b a => Remains g s a b) n

/-- Every edge followed so far ends a cycle, leads to a finished node or is part of the path. -/
structure Outcome (g : Graph) (s : Search) : Prop extends Found g s where
  settled : ∀ {a b : Nat}, Taken g s a b → Closes s a b ∨ s.mark b = .done ∨ [a, b] <:+: s.path

theorem Layout.chain (h : Layout g s) : s.path.IsChain g.Adjacent :=
  List.isChain_map_of_isChain _ (fun _ _ ⟨_, _, hg⟩ => Array.mem_of_getElem? hg) h.linked

theorem cycleTo_eq {i : Nat} (hd : s.depth[n]? = some i) : s.cycleTo n = s.path.drop i ++ [n] := by
  have hi : s.depth.getD n 0 = i := by rw [Array.getD_eq_getD_getElem?, hd, Option.getD_some]
  rw [cycleTo, hi, Array.toList_extract, List.extract_eq_take_drop, List.map_take, List.map_drop,
    List.take_of_length_le (by simp)]
  rfl

/-- The path back to a node on it, closed by the edge of the last node. -/
theorem Layout.cycleTo_eq (h : Layout g s) (hf : s.frames = below.push top)
    (hm : s.mark target = .onPath) :
    ∃ front, s.cycleTo target = front ++ [top.node, target] ∧
      front ++ [top.node] <:+ s.path ∧ (front ++ [top.node]).head? = some target := by
  obtain ⟨i, hi⟩ := List.mem_iff_getElem?.1 (h.mark_onPath.1 hm)
  have hp := path_eq_append hf
  have hlt : i ≤ (below.toList.map (·.node)).length := by
    have := (List.getElem?_eq_some_iff.1 hi).1
    rw [hp, List.length_append, List.length_singleton] at this
    omega
  have hdrop : s.path.drop i = (below.toList.map (·.node)).drop i ++ [top.node] := by
    rw [hp, List.drop_append_of_le_length hlt]
  refine ⟨(below.toList.map (·.node)).drop i, ?_, ?_, ?_⟩
  · rw [Search.cycleTo_eq (h.depth_path hi), hdrop]
    simp
  · rw [← hdrop]
    exact List.drop_suffix i s.path
  · rw [← hdrop, List.head?_drop, hi]

theorem Layout.closedPath (h : Layout g s) (hf : s.frames = below.push top)
    (hm : s.mark target = .onPath) (ha : g.Adjacent top.node target) :
    ClosedPath g.Adjacent (s.cycleTo target) ∧ EndsWith (s.cycleTo target) top.node target := by
  obtain ⟨front, hc, hs, hh⟩ := h.cycleTo_eq hf hm
  rw [hc]
  refine ⟨⟨?_, ?_, ?_, ?_⟩, front, rfl⟩
  · simp
  · have hl : front ++ [top.node, target] = (front ++ [top.node]) ++ [target] := by simp
    rw [hl, List.head?_append, hh, List.getLast?_append]
    simp
  · have hl : front ++ [top.node, target] = (front ++ [top.node]) ++ [target] := by simp
    rw [hl, List.dropLast_concat]
    exact h.nodup.sublist hs.sublist
  · rw [List.isChain_append_cons_cons]
    exact ⟨h.chain.suffix hs, ha, List.isChain_singleton _⟩

/-- With more cycles fewer edges remain, so what was accessible stays so. -/
theorem acc_remains_mono {s' : Search} (hc : ∀ a b, Closes s a b → Closes s' a b)
    (h : Acc (fun b a => Remains g s a b) n) : Acc (fun b a => Remains g s' a b) n :=
  Subrelation.accessible (fun hr => ⟨hr.1, fun hcl => hr.2 (hc _ _ hcl)⟩) h

theorem infix_concat {a b t : Nat} {l : List Nat} (h : [a, b] <:+: l ++ [t]) :
    (a ∈ l ∧ b = t) ∨ [a, b] <:+: l := by
  rcases List.infix_concat_iff.1 h with ⟨front, he⟩ | hi
  · have he' : (front ++ [a]) ++ [b] = l ++ [t] := by simpa using he
    obtain ⟨rfl, hb⟩ := List.append_inj' he' rfl
    exact .inl ⟨by simp, by simpa using hb⟩
  · exact .inr hi

theorem Outcome.leave (ho : Outcome g s) (h : Layout g s) (hf : s.frames = below.push top)
    (hno : (g.next top.node)[top.edge]? = none) : Outcome g (s.leave top.node) := by
  have hm := mark_leave (lt_size_of_mark (s := s) (n := top.node) (by simp [h.mark_top hf]))
  have hp := path_eq_append hf
  have hnew : top.node ∉ below.toList.map (·.node) := by
    have hd := h.nodup
    rw [hp, ← List.concat_eq_append, List.nodup_concat] at hd
    exact hd.1
  refine ⟨⟨ho.closed, fun hc => (h.taken_leave hf hno).2 (ho.closes_taken hc), ho.closes_once,
    fun {n} hd => ?_⟩, fun {a b} ht => ?_⟩
  rotate_left
  · rcases ho.settled ((h.taken_leave hf hno).1 ht) with hc | hd | hi
    · exact .inl hc
    · exact .inr (.inl (by rw [hm, hd]; split <;> rfl))
    · rw [hp] at hi
      rcases infix_concat hi with ⟨-, rfl⟩ | hi
      · exact .inr (.inl (by rw [hm, if_pos rfl]))
      · exact .inr (.inr (by rwa [path_leave hf]))
  · rw [hm] at hd
    by_cases hn : top.node = n
    · -- All edges of the node have been followed, and none of them leads along the path.
      subst hn
      refine Acc.intro _ fun b hb => ?_
      have ht : Taken g s top.node b :=
        (h.taken_leave hf hno).1 (.inl ⟨by rw [hm, if_pos rfl], hb.1⟩)
      rcases ho.settled ht with hc | hd | hi
      · exact (hb.2 hc).elim
      · exact ho.finished hd
      · rw [hp] at hi
        rcases infix_concat hi with ⟨hmem, -⟩ | hi
        · exact (hnew hmem).elim
        · exact (hnew (hi.subset (by simp))).elim
    · rw [if_neg hn] at hd
      exact ho.finished hd

theorem closes_push {path : List Nat} {a b : Nat} {cycles : Array (List Nat)} :
    Closes { s with cycles := cycles.push path } a b ↔
      (∃ p ∈ cycles, EndsWith p a b) ∨ EndsWith path a b := by
  simp [Closes, Array.mem_push, or_and_right, exists_or]

theorem Outcome.close (ho : Outcome g s) (h : Layout g s) (hg : g.WellFormed)
    (hf : s.frames = below.push top) (ht : (g.next top.node)[top.edge]? = some target)
    (hm : s.mark target = .onPath) :
    Outcome g { s.advance with cycles := s.cycles.push (s.advance.cycleTo target) } := by
  have hadv := h.advance hf (Array.getElem?_eq_some_iff.1 ht).1
  obtain ⟨hclosed, hends⟩ := hadv.closedPath (frames_advance hf) hm (Array.mem_of_getElem? ht)
  have hcl : ∀ {a b}, Closes { s.advance with cycles := s.cycles.push (s.advance.cycleTo target) }
      a b ↔ Closes s a b ∨ (a = top.node ∧ b = target) := fun {a b} => by
    rw [closes_push]
    refine or_congr Iff.rfl ⟨fun he => he.unique hends, ?_⟩
    intro h
    obtain ⟨rfl, rfl⟩ := h
    exact hends
  refine ⟨⟨fun {path} hp => ?_, fun {a b} hc => ?_, ?_, fun {n} hd => ?_⟩, fun {a b} hab => ?_⟩
  · rcases Array.mem_push.1 hp with hp | rfl
    · exact ho.closed hp
    · exact hclosed
  · exact (taken_advance hf ht).2 ((hcl.1 hc).imp_left ho.closes_taken)
  · rw [Array.toList_push, List.pairwise_append]
    refine ⟨ho.closes_once, List.pairwise_singleton _ _, fun p hp q hq a b hpa hqa => ?_⟩
    rw [List.mem_singleton.1 hq] at hqa
    obtain ⟨rfl, rfl⟩ := hqa.unique hends
    exact h.not_taken hg hf ht (ho.closes_taken ⟨p, by simpa using hp, hpa⟩)
  · exact acc_remains_mono (fun a b hc => hcl.2 (.inl hc)) (ho.finished hd)
  · rcases (taken_advance hf ht).1 hab with hab | hab
    · rcases ho.settled hab with hc | hd | hi
      · exact .inl (hcl.2 (.inl hc))
      · exact .inr (.inl hd)
      · refine .inr (.inr ?_)
        change [a, b] <:+: s.advance.path
        rwa [path_advance hf]
    · exact .inl (hcl.2 (.inr hab))

theorem Found.advance (ho : Found g s) (hf : s.frames = below.push top)
    (ht : (g.next top.node)[top.edge]? = some target) : Found g s.advance :=
  ⟨ho.closed, fun hc => (taken_advance hf ht).2 (.inl (ho.closes_taken hc)), ho.closes_once,
    ho.finished⟩

theorem Outcome.pass (ho : Outcome g s) (hf : s.frames = below.push top)
    (ht : (g.next top.node)[top.edge]? = some target) (hm : s.mark target = .done) :
    Outcome g s.advance := by
  refine ⟨ho.toFound.advance hf ht, fun {a b} hab => ?_⟩
  rw [path_advance hf]
  rcases (taken_advance hf ht).1 hab with hab | ⟨rfl, rfl⟩
  · exact ho.settled hab
  · exact .inr (.inl hm)

theorem Found.enter (ho : Found g s) (hn : n < s.marks.size) (hm : s.mark n = .unvisited)
    (settled : ∀ {a b : Nat}, Taken g s a b →
      Closes s a b ∨ s.mark b = .done ∨ [a, b] <:+: s.path ++ [n]) : Outcome g (s.enter n) := by
  have hd : ∀ {i}, (s.enter n).mark i = .done ↔ s.mark i = .done := fun {i} => by
    rw [mark_enter hn]
    split
    · rename_i he
      simp [← he, hm]
    · rfl
  refine ⟨⟨ho.closed, fun hc => (taken_enter hn hm).2 (ho.closes_taken hc), ho.closes_once,
    fun {i} hi => ho.finished (hd.1 hi)⟩, fun {a b} ht => ?_⟩
  rw [path_enter, hd]
  exact settled ((taken_enter hn hm).1 ht)

theorem Outcome.enter_next (ho : Outcome g s) (hf : s.frames = below.push top)
    (ht : (g.next top.node)[top.edge]? = some target) (hm : s.mark target = .unvisited) :
    Outcome g (s.advance.enter target) := by
  refine (ho.toFound.advance hf ht).enter (lt_size_of_mark (by simp [hm])) hm fun {a b} hab => ?_
  rw [path_advance hf]
  rcases (taken_advance hf ht).1 hab with hab | ⟨rfl, rfl⟩
  · rcases ho.settled hab with hc | hb | hi
    · exact .inl hc
    · exact .inr (.inl hb)
    · exact .inr (.inr (hi.trans (List.prefix_append _ _).isInfix))
  · rw [path_eq_append hf]
    exact .inr (.inr ⟨below.toList.map (·.node), [], by simp⟩)

theorem Outcome.turn (ho : Outcome g s) (h : Invariant g s) (hg : g.WellFormed)
    (hf : s.frames = below.push top) : Outcome g (s.turn g) :=
  turn_cases hf (fun hno => ho.leave h.toLayout hf hno)
    (fun _ ht hm => ho.close h.toLayout hg hf ht hm) (fun _ ht hm => ho.enter_next hf ht hm)
    (fun _ ht hm => ho.pass hf ht hm)

/-- Between visits nothing is on the path, and there are turns enough for all that remains. -/
structure Resting (g : Graph) (s : Search) : Prop where
  invariant : Invariant g s
  outcome : Outcome g s
  frames_eq : s.frames = #[]
  remaining_le : remaining g s ≤ g.size + g.edgeCount

theorem resting_start (g : Graph) : Resting g (start g) := by
  have hc : ∀ a b, ¬ Closes (start g) a b := fun a b ⟨p, hp, _⟩ => by simp [start] at hp
  refine ⟨invariant_start g, ⟨⟨?_, fun {a b} h => (hc a b h).elim, ?_, ?_⟩, ?_⟩, rfl,
    (remaining_start g).le⟩
  · simp [start]
  · simp [start]
  · intro n hn
    rw [mark_start] at hn
    refine Acc.intro n fun b hb => ?_
    rw [if_pos (lt_of_mem_next hb.1)] at hn
    cases hn
  · exact fun {a b} ht => (not_taken_start g a b ht).elim

theorem Resting.visit (h : Resting g s) (hg : g.WellFormed) (n : Nat) :
    Resting g (visit g s n) ∧ (visit g s n).mark n ≠ .unvisited ∧
      ∀ i, s.mark i ≠ .unvisited → (visit g s n).mark i ≠ .unvisited := by
  unfold Search.visit
  split
  · rename_i hm
    have hn : n < s.marks.size := lt_size_of_mark (by simp [hm])
    have hi := h.invariant.enter h.frames_eq hm
    have ho : Outcome g (s.enter n) := h.outcome.toFound.enter hn hm fun {a b} hab => by
      rcases h.outcome.settled hab with hc | hb | hp
      · exact .inl hc
      · exact .inr (.inl hb)
      · exact .inr (.inr (hp.trans (List.prefix_append _ _).isInfix))
    have hr : remaining g (s.enter n) ≤ g.size + g.edgeCount := by
      have hs := h.invariant.marks_size
      rw [remaining_enter (hs ▸ hn) hs hm]
      exact h.remaining_le
    have hv : ∀ i, i = n ∨ s.mark i ≠ .unvisited → (s.enter n).mark i ≠ .unvisited := by
      intro i hi
      rw [mark_enter hn]
      split
      · simp
      · rename_i hne
        exact hi.resolve_left fun he => hne he.symm
    obtain ⟨hi', ho', hr', hv'⟩ := exhaust_induction (g := g)
      (motive := fun t => Invariant g t ∧ Outcome g t ∧ remaining g t ≤ g.size + g.edgeCount ∧
        ∀ i, i = n ∨ s.mark i ≠ .unvisited → t.mark i ≠ .unvisited)
      ⟨hi, ho, hr, hv⟩ (fun t below top hf ht => ⟨ht.1.turn hg hf, ht.2.1.turn ht.1 hg hf,
        by have := ht.1.toLayout.remaining_turn hg hf; omega,
        fun i hi => ht.1.toLayout.visited_turn hf (ht.2.2.2 i hi)⟩) (g.size + g.edgeCount)
    exact ⟨⟨hi', ho', frames_exhaust hg hi hr, hr'⟩, hv' n (.inl rfl),
      fun i hm => hv' i (.inr hm)⟩
  · rename_i hm
    exact ⟨h, hm, fun _ hi => hi⟩

theorem Resting.foldl_visit (hg : g.WellFormed) (nodes : List Nat) {s : Search}
    (h : Resting g s) : Resting g (nodes.foldl (Search.visit g) s) ∧
      ∀ n, n ∈ nodes ∨ s.mark n ≠ .unvisited →
        (nodes.foldl (Search.visit g) s).mark n ≠ .unvisited := by
  induction nodes generalizing s with
  | nil => exact ⟨h, fun n hn => hn.resolve_left (by simp)⟩
  | cons node rest ih =>
    obtain ⟨hr, hself, hkeep⟩ := h.visit hg node
    obtain ⟨hrest, hall⟩ := ih hr
    refine ⟨hrest, fun n hn => hall n ?_⟩
    rcases hn with hn | hn
    · rcases List.mem_cons.1 hn with rfl | hn
      · exact .inr hself
      · exact .inl hn
    · exact .inr (hkeep n hn)

theorem Resting.mark_ne_onPath (h : Resting g s) : s.mark n ≠ .onPath := by
  intro hm
  have hp := h.invariant.mark_onPath.1 hm
  simp [path, h.frames_eq] at hp

/-- The state after the last visit. -/
def final (g : Graph) : Search := (List.range g.size).foldl (Search.visit g) (start g)

theorem resting_final (hg : g.WellFormed) : Resting g (final g) :=
  ((resting_start g).foldl_visit hg _).1

/-- In the end every node is finished. -/
theorem mark_final (hg : g.WellFormed) (n : Nat) : (final g).mark n = .done := by
  have hr := resting_final hg
  cases hm : (final g).mark n with
  | done => rfl
  | onPath => exact (hr.mark_ne_onPath hm).elim
  | unvisited =>
    have hlt : n < g.size := hr.invariant.marks_size ▸ lt_size_of_mark (by simp [hm])
    have := ((resting_start g).foldl_visit hg _).2 n (.inl (List.mem_range.2 hlt))
    exact (this hm).elim

end Search

variable {g : Graph}

theorem WellFormed.closedPath_of_mem_cycles (hg : g.WellFormed) {path : List Nat}
    (h : path ∈ g.cycles) : ClosedPath g.Adjacent path :=
  (Search.resting_final hg).outcome.closed (Array.mem_toList_iff.1 h)

/-- No two cycles end with the same edge. -/
theorem WellFormed.pairwise_cycles (hg : g.WellFormed) :
    g.cycles.Pairwise fun p q => ∀ a b, EndsWith p a b → ¬ EndsWith q a b :=
  (Search.resting_final hg).outcome.closes_once

/-- Without the edges that the cycles end with a graph is acyclic. -/
theorem WellFormed.acyclic_remaining (hg : g.WellFormed) :
    Acyclic fun a b => g.Adjacent a b ∧ ∀ path ∈ g.cycles, ¬ EndsWith path a b := by
  have hacc : Acyclic (Search.Remains g (Search.final g)) := acyclic_of_acc fun n =>
    (Search.resting_final hg).outcome.finished (Search.mark_final hg n)
  refine hacc.mono fun a b h => ⟨h.1, ?_⟩
  intro h
  obtain ⟨path, hp, he⟩ := h
  exact h.2 path (Array.mem_toList_iff.2 hp) he

end AgentSpec.Graph
