import AgentSpec.Proofs.Graph.Sizes
import AgentSpec.Proofs.Graph.Sweep
import AgentSpec.Proofs.Graph.Usage

/-! How many turns the walks through a graph take, by the names and edges that it is made from. The
search for cycles enters every node once and follows every edge once. -/
namespace AgentSpec.Graph

namespace Search

variable {g : Graph} {a b : Nat}

/-- In the end every edge has been followed. -/
theorem taken_final (hg : g.WellFormed) : Taken g (final g) a b ↔ b ∈ g.next a :=
  ⟨Taken.mem_next, fun h => .inl ⟨mark_final hg a, h⟩⟩

theorem remaining_final (hg : g.WellFormed) : remaining g (final g) = 0 := by
  have hnone : ∀ n ∈ Finset.range g.size, pendingTurns g (final g) n = 0 := fun n _ => by
    rw [pendingTurns, mark_final hg n, if_neg (by simp)]
  rw [remaining, (resting_final hg).frames_eq, Finset.sum_eq_zero hnone]
  rfl

end Search

/-- Let a graph be made from names and edges. The search for cycles ends by itself: it has put every
name on its path once, has followed every edge between the names once, and has taken one turn for
each of them. Both walks that find what a node makes use of end by themselves, too. The first takes
at most one turn for every edge and one more, the second at most one for every name. -/
theorem walks_end (names : List String) (edges : List Edge) :
    let g := ofEdges names edges
    (∃ log s, Run (Sweep.step? g) (.start g) log ⟨[], s⟩ ∧ Sweep.step? g ⟨[], s⟩ = none ∧
      s.cycles.toList = g.cycles ∧
      ((log.filterMap (Sweep.entered? g)).map g.table.name).Perm names.dedup ∧
      ((log.filterMap (·.search.followed? g)).map g.named).Perm (resolved names edges) ∧
      log.countP Sweep.isTurning = names.dedup.length + (resolved names edges).length) ∧
    ∀ start < names.dedup.length,
      (∃ log, Run (followTurn? g) (Array.replicate g.size false, [start]) log
          (g.following start, []) ∧ log.length ≤ 1 + (resolved names edges).length) ∧
      ∀ stack : List Nat, stack.Nodup →
        (∀ n, n ∈ stack ↔ isMarked (g.following start) n = true) →
        ∃ log, Run (needTurn? g) (g.following start, stack) log (g.usedFrom start, []) ∧
          log.length ≤ names.dedup.length := by
  have hg := wellFormed_ofEdges names edges
  have hsize := size_ofEdges names edges
  have hcount := edgeCount_ofEdges names edges
  refine ⟨?_, fun start hs => ⟨?_, fun stack hd hstack => ?_⟩⟩
  · obtain ⟨log, hrun⟩ := Sweep.exists_run_final hg
    obtain ⟨hentered, hnodes⟩ := Sweep.entered_of_run hg hrun
    obtain ⟨hfollowed, hpairs⟩ := Sweep.followed_of_run hg hrun
    have hturns := Sweep.countP_isTurning hg hrun
    rw [Search.remaining_final hg, hsize, hcount] at hturns
    refine ⟨log, _, hrun, Sweep.step?_eq_none_iff.2 ⟨(Search.resting_final hg).frames_eq, rfl⟩,
      rfl, perm_names hentered fun n => ?_, perm_resolved hfollowed fun a b => ?_, hturns⟩
    · rw [hnodes, Sweep.Visited, Search.mark_final hg]
      simp
    · rw [hpairs, Search.taken_final hg]
  · rw [← hcount]
    exact exists_run_following hg (hsize ▸ hs)
  · rw [← hsize]
    exact exists_run_usedFrom hg (hsize ▸ hs) hd hstack

/-- Two nodes that lead to each other, one of them named twice, and a third that leads to them. One
edge comes twice, and another one leads to no node. -/
theorem walks_end_twins :
    let names := ["a", "b", "c", "b"]
    let g := ofEdges names
      [⟨"a", "b"⟩, ⟨"b", "a"⟩, ⟨"a", "b"⟩, ⟨"c", "a"⟩, ⟨"c", "gone"⟩]
    (∃ log s, Run (Sweep.step? g) (.start g) log ⟨[], s⟩ ∧ log.countP Sweep.isTurning = 6) ∧
    (∃ log, Run (followTurn? g) (Array.replicate g.size false, [1]) log (g.following 1, []) ∧
      log.length ≤ 4) ∧
    ∃ log, Run (needTurn? g) (g.following 1, [1, 0]) log (#[true, true, true], []) ∧
      log.length ≤ 3 := by
  intro names g
  have hnames : names.dedup.length = 3 := by decide +kernel
  have hedges : (resolved names
      [⟨"a", "b"⟩, ⟨"b", "a"⟩, ⟨"a", "b"⟩, ⟨"c", "a"⟩, ⟨"c", "gone"⟩]).length = 3 := by
    decide +kernel
  have hused : g.usedFrom 1 = #[true, true, true] := by decide +kernel
  have hreached : (List.range g.size).filter (isMarked (g.following 1)) = [0, 1] := by
    decide +kernel
  have hstack : ∀ n, n ∈ [1, 0] ↔ isMarked (g.following 1) n = true := fun n => by
    rw [← mem_filter_following (wellFormed_ofEdges _ _) (by decide +kernel : 1 < g.size), hreached]
    simp [or_comm]
  obtain ⟨⟨log, s, hrun, -, -, -, -, hturns⟩, hwalks⟩ := walks_end names
    [⟨"a", "b"⟩, ⟨"b", "a"⟩, ⟨"a", "b"⟩, ⟨"c", "a"⟩, ⟨"c", "gone"⟩]
  obtain ⟨hfollow, hneed⟩ := hwalks 1 (by decide +kernel)
  rw [hnames, hedges] at hturns
  rw [hedges] at hfollow
  have hlast := hneed [1, 0] (by decide) hstack
  rw [hnames] at hlast
  exact ⟨⟨log, s, hrun, hturns⟩, hfollow, hused ▸ hlast⟩

end AgentSpec.Graph
