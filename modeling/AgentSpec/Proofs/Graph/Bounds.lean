import AgentSpec.Proofs.Graph.Sweep

/-! The search for cycles with every index checked. What holds wherever a search has come to keeps
all of them in range. -/
namespace AgentSpec.Graph

/-- Writes at an index, which has to be in range. -/
def put? {α : Type} (row : Array α) (i : Nat) (value : α) : Option (Array α) :=
  if i < row.size then some (row.setIfInBounds i value) else none

theorem put?_of_lt {α : Type} {row : Array α} {i : Nat} (h : i < row.size) (value : α) :
    put? row i value = some (row.setIfInBounds i value) := if_pos h

namespace Search

/-! Each step of the search again, without a result if it meets an index out of range. -/

def enter? (s : Search) (node : Nat) : Option Search := do
  let marks ← put? s.marks node .onPath
  let depth ← put? s.depth node s.frames.size
  return { s with marks, depth, frames := s.frames.push ⟨node, 0⟩ }

def leave? (s : Search) (node : Nat) : Option Search := do
  let marks ← put? s.marks node .done
  return { s with marks, frames := s.frames.pop }

def cycleTo? (s : Search) (node : Nat) : Option (List Nat) := do
  let first ← s.depth[node]?
  if first ≤ s.frames.size then
    return (s.frames.extract first s.frames.size).toList.map (·.node) ++ [node]
  else none

def turn? (g : Graph) (s : Search) : Option Search :=
  match s.frames.back? with
  | none => some s
  | some frame => do
    let targets ← g.successors[frame.node]?
    match targets[frame.edge]? with
    | none => s.leave? frame.node
    | some target =>
      let s := s.advance
      match ← s.marks[target]? with
      | .onPath => return { s with cycles := s.cycles.push (← s.cycleTo? target) }
      | .unvisited => s.enter? target
      | .done => return s

/-- Turns until the path is empty; there is no result either if it does not get so. -/
def exhaust? (g : Graph) : Nat → Search → Option Search
  | 0, s => if s.frames.isEmpty then some s else none
  | fuel + 1, s => if s.frames.isEmpty then some s else do exhaust? g fuel (← s.turn? g)

def visit? (g : Graph) (s : Search) (node : Nat) : Option Search := do
  if (← s.marks[node]?) = .unvisited then
    exhaust? g (g.size + g.edgeCount) (← s.enter? node)
  else return s

variable {g : Graph} {s : Search} {below : Array Frame} {top : Frame} {n target : Nat}

theorem enter?_eq (hm : n < s.marks.size) (hd : n < s.depth.size) :
    s.enter? n = some (s.enter n) := by
  simp [enter?, enter, put?_of_lt hm, put?_of_lt hd]

theorem leave?_eq (hm : n < s.marks.size) : s.leave? n = some (s.leave n) := by
  simp [leave?, leave, put?_of_lt hm]

theorem getElem?_marks (hn : n < s.marks.size) : s.marks[n]? = some (s.mark n) := by
  rw [mark, Array.getD_eq_getD_getElem?, Array.getElem?_eq_getElem hn, Option.getD_some]

/-- The depth of a node on the path is a position on it. -/
theorem Layout.cycleTo?_eq (h : Layout g s) (hm : s.mark n = .onPath) :
    s.cycleTo? n = some (s.cycleTo n) := by
  obtain ⟨i, hi⟩ := List.mem_iff_getElem?.1 (h.mark_onPath.1 hm)
  have hdepth : s.depth[n]? = some i := h.depth_path hi
  have hlt : i < s.frames.size := by
    have := (List.getElem?_eq_some_iff.1 hi).1
    simpa [path] using this
  have hgetD : s.depth.getD n 0 = i := by
    rw [Array.getD_eq_getD_getElem?, hdepth, Option.getD_some]
  simp [cycleTo?, cycleTo, hdepth, hgetD, hlt.le]

theorem Layout.turn?_eq (h : Layout g s) (hg : g.WellFormed) (hf : s.frames = below.push top) :
    s.turn? g = some (s.turn g) := by
  -- The last node is on the path, and its edge leads to a node: both are numbers of the graph.
  have htop : s.mark top.node = .onPath := h.mark_top hf
  have hmarks : top.node < s.marks.size := lt_size_of_mark (by simp [htop])
  have hsize : top.node < g.size := h.marks_size ▸ hmarks
  have hout : g.successors[top.node]? = some (g.next top.node) := by
    rw [next, Array.getD_eq_getD_getElem?, Array.getElem?_eq_getElem hsize, Option.getD_some]
  simp only [turn?, hf, Array.back?_push, hout, Option.bind_eq_bind, Option.bind_some]
  cases ht : (g.next top.node)[top.edge]? with
  | none =>
    rw [turn_of_none hf ht]
    exact leave?_eq hmarks
  | some target =>
    have hadvanced := h.advance hf (Array.getElem?_eq_some_iff.1 ht).1
    have htarget : target < g.size := hg.next_lt (mem_next_of_getElem? ht)
    have hmark : s.advance.marks[target]? = some (s.mark target) :=
      getElem?_marks (s := s.advance) (hadvanced.marks_size ▸ htarget)
    simp only [hmark, Option.bind_some]
    cases hm : s.mark target with
    | onPath =>
      rw [turn_of_onPath hf ht hm]
      simp only [hadvanced.cycleTo?_eq hm]
      rfl
    | unvisited =>
      rw [turn_of_unvisited hf ht hm]
      exact enter?_eq (hadvanced.marks_size ▸ htarget) (hadvanced.depth_size ▸ htarget)
    | done =>
      rw [turn_of_done hf ht hm]
      rfl

theorem exhaust?_eq (hg : g.WellFormed) {fuel : Nat} (h : Invariant g s)
    (hr : remaining g s ≤ fuel) : exhaust? g fuel s = some (exhaust g fuel s) := by
  induction fuel generalizing s with
  | zero =>
    have he : s.frames = #[] := frames_exhaust hg h hr
    simp [exhaust?, exhaust, he]
  | succ fuel ih =>
    unfold exhaust? exhaust
    by_cases he : s.frames = #[]
    · simp [he]
    · obtain ⟨below, top, hf⟩ := exists_push_of_ne_empty he
      have hturn := h.toLayout.remaining_turn hg hf
      rw [if_neg (by simpa using he), if_neg (by simpa using he), h.toLayout.turn?_eq hg hf]
      exact ih (h.turn hg hf) (by omega)

theorem Resting.visit?_eq (h : Resting g s) (hg : g.WellFormed) (hn : n < g.size) :
    visit? g s n = some (Search.visit g s n) := by
  have hs := h.invariant.marks_size
  have hd := h.invariant.depth_size
  unfold visit? Search.visit
  rw [getElem?_marks (hs ▸ hn)]
  simp only [Option.bind_eq_bind, Option.bind_some]
  split
  · rename_i hm
    have hr : remaining g (s.enter n) ≤ g.size + g.edgeCount := by
      rw [remaining_enter hn hs hm]
      exact h.remaining_le
    rw [enter?_eq (hs ▸ hn) (hd ▸ hn)]
    exact exhaust?_eq hg (h.invariant.enter h.frames_eq hm) hr
  · rfl

theorem Resting.foldlM_visit? (hg : g.WellFormed) (nodes : List Nat)
    (hn : ∀ n ∈ nodes, n < g.size) {s : Search} (h : Resting g s) :
    nodes.foldlM (visit? g) s = some (nodes.foldl (Search.visit g) s) := by
  induction nodes generalizing s with
  | nil => rfl
  | cons node rest ih =>
    rw [List.forall_mem_cons] at hn
    rw [List.foldlM_cons, h.visit?_eq hg hn.1]
    exact ih hn.2 (h.visit hg node).1

end Search

/-- The cycles of a graph, if the search for them has all its indices in range. -/
def cycles? (g : Graph) : Option (List (List Nat)) := do
  let s ← (List.range g.size).foldlM (Search.visit? g) (Search.start g)
  return s.cycles.toList

theorem WellFormed.cycles?_eq {g : Graph} (hg : g.WellFormed) : g.cycles? = some g.cycles := by
  unfold cycles?
  rw [(Search.resting_start g).foldlM_visit? hg _ fun n hn => List.mem_range.1 hn]
  rfl

/-- Wherever the search of a graph that is made from edges has come to, the frames, marks and depths
are laid out as they have to be, and all edges followed so far lead to nodes that are finished or
on the path. It comes to its end that way, and with no index out of range. -/
theorem search_in_bounds (names : List String) (edges : List Edge) :
    let g := ofEdges names edges
    (∀ log w, Run (Sweep.step? g) (.start g) log w →
      Search.Layout g w.search ∧ ∀ e ∈ log.filterMap (·.search.followed? g),
        w.search.marks[e.2]? = some .done ∨ w.search.marks[e.2]? = some .onPath) ∧
    (∃ log s, Run (Sweep.step? g) (.start g) log ⟨[], s⟩ ∧ Sweep.step? g ⟨[], s⟩ = none ∧
      s.cycles.toList = g.cycles) ∧
    g.cycles? = some g.cycles := by
  have hg := wellFormed_ofEdges names edges
  refine ⟨fun log w hrun => ?_, ?_, hg.cycles?_eq⟩
  · have hi := Sweep.invariant_of_run hg hrun
    refine ⟨hi.toLayout, fun e he => ?_⟩
    have htaken : Search.Taken _ w.search e.1 e.2 := ((Sweep.followed_of_run hg hrun).2 _ _).1 he
    have hlt : e.2 < w.search.marks.size := by
      rw [hi.marks_size]
      exact hg.next_lt htaken.mem_next
    rw [Search.getElem?_marks hlt]
    cases hm : w.search.mark e.2 with
    | unvisited => exact (hi.visited htaken hm).elim
    | onPath => exact .inr rfl
    | done => exact .inl rfl
  · obtain ⟨log, hrun⟩ := Sweep.exists_run_final hg
    exact ⟨log, _, hrun,
      Sweep.step?_eq_none_iff.2 ⟨(Search.resting_final hg).frames_eq, rfl⟩, rfl⟩

/-- Three nodes in a circle behind a fourth, with an edge that comes twice and one that leads to no
node. After five steps the search is at the end of the circle. -/
theorem search_in_bounds_circle :
    let g := ofEdges ["start", "x", "y", "z"]
      [⟨"start", "x"⟩, ⟨"z", "x"⟩, ⟨"x", "y"⟩, ⟨"x", "y"⟩, ⟨"y", "z"⟩, ⟨"y", "gone"⟩]
    let w := settle (Sweep.step? g) 5 (.start g)
    Run (Sweep.step? g) (.start g) (trail (Sweep.step? g) 5 (.start g)) w ∧
      w.search.path = [0, 1, 2, 3] ∧ w.search.depth[1]? = some 1 ∧
      w.search.cycles.toList = [[1, 2, 3, 1]] ∧
      (3, 1) ∈ (trail (Sweep.step? g) 5 (.start g)).filterMap (·.search.followed? g) ∧
      (w.search.marks[1]? = some .done ∨ w.search.marks[1]? = some .onPath) ∧
      g.cycles? = some g.cycles := by
  intro g w
  have hrun : Run (Sweep.step? g) (.start g) (trail (Sweep.step? g) 5 (.start g)) w :=
    Run.start.settled 5
  have hpath : w.search.path = [0, 1, 2, 3] := by decide +kernel
  have hfollowed :
      (3, 1) ∈ (trail (Sweep.step? g) 5 (.start g)).filterMap (·.search.followed? g) := by
    decide +kernel
  obtain ⟨hheld, -, hchecked⟩ := search_in_bounds ["start", "x", "y", "z"]
    [⟨"start", "x"⟩, ⟨"z", "x"⟩, ⟨"x", "y"⟩, ⟨"x", "y"⟩, ⟨"y", "z"⟩, ⟨"y", "gone"⟩]
  obtain ⟨hlayout, hmarked⟩ := hheld _ w hrun
  exact ⟨hrun, hpath, hlayout.depth_path (by rw [hpath]; rfl), by decide +kernel, hfollowed,
    hmarked _ hfollowed, hchecked⟩

end AgentSpec.Graph
