import AgentSpec.Proofs.Graph.Cycles

/-!
The search for cycles as a recursion from node to node. The search that keeps frames of its own
finds the same cycles in the same order.
-/
namespace AgentSpec.Graph

/-- What a depth-first search has finished and found so far. -/
structure DepthFirst where
  finished : List Nat
  cycles : List (List Nat)

namespace DepthFirst

def finish (d : DepthFirst) (node : Nat) : DepthFirst :=
  { d with finished := node :: d.finished }

/-- Notes the path from a node on it to its end and back to that node. -/
def close (d : DepthFirst) (path : List Nat) (node : Nat) : DepthFirst :=
  { d with cycles := d.cycles ++ [path.dropWhile (· != node) ++ [node]] }

/-- The nodes of the graph that are not on a path. -/
def offPath (g : Graph) (path : List Nat) : List Nat := (List.range g.size).filter (· ∉ path)

theorem offPath_concat_sublist (g : Graph) (path : List Nat) (node : Nat) :
    List.Sublist (offPath g (path ++ [node])) (offPath g path) := by
  refine List.monotone_filter_right _ fun i hi => ?_
  simp only [List.mem_append, decide_eq_true_eq] at hi ⊢
  exact fun hp => hi (.inl hp)

theorem offPath_concat_lt {g : Graph} {path : List Nat} {node : Nat} (hn : node < g.size)
    (hp : node ∉ path) : (offPath g (path ++ [node])).length < (offPath g path).length := by
  have hsub := offPath_concat_sublist g path node
  have hmem : node ∈ offPath g path := by simp [offPath, hn, hp]
  have hgone : node ∉ offPath g (path ++ [node]) := by simp [offPath]
  refine Nat.lt_of_le_of_ne hsub.length_le fun he => ?_
  rw [← hsub.eq_of_length he] at hmem
  exact hgone hmem

/-- A node that is entered leaves fewer nodes to enter, or it has no edges. -/
theorem visit_lt {g : Graph} {path : List Nat} {node : Nat} (hp : node ∉ path) (rest : List Nat) :
    Prod.Lex (· < ·) (Prod.Lex (· < ·) (· < ·))
      ((offPath g (path ++ [node])).length, (g.next node).size, 1)
      ((offPath g path).length, rest.length + 1, 0) := by
  by_cases hn : node < g.size
  · exact .left _ _ (offPath_concat_lt hn hp)
  · rcases (offPath_concat_sublist g path node).length_le.lt_or_eq with hlt | heq
    · exact .left _ _ hlt
    · rw [heq, next_eq_empty hn]
      exact .right _ (.left _ _ (Nat.succ_pos _))

mutual

/-- Puts a node on the path, follows its edges, and takes it off the path as finished. -/
def visit (g : Graph) (path : List Nat) (d : DepthFirst) (node : Nat) : DepthFirst :=
  (follow g (path ++ [node]) d (g.next node).toList).finish node
termination_by ((offPath g (path ++ [node])).length, (g.next node).size, 1)
decreasing_by exact .right _ (.right _ Nat.one_pos)

/-- Follows edges from the end of the path: one back to a node on the path closes a cycle, one to
a finished node leads to nothing new, and all others lead to nodes that are visited. -/
def follow (g : Graph) (path : List Nat) (d : DepthFirst) (targets : List Nat) : DepthFirst :=
  match targets with
  | [] => d
  | target :: rest =>
    if target ∈ path then follow g path (d.close path target) rest
    else if target ∈ d.finished then follow g path d rest
    else follow g path (visit g path d target) rest
termination_by ((offPath g path).length, targets.length, 0)
decreasing_by
  · exact .right _ (.left _ _ (Nat.lt_succ_self _))
  · exact .right _ (.left _ _ (Nat.lt_succ_self _))
  · rename_i hp _
    exact visit_lt hp rest
  · exact .right _ (.left _ _ (Nat.lt_succ_self _))

end

/-- The cycles that are found if the nodes are visited in the order of their numbers, unless a
visit to an earlier one has led to them. -/
def all (g : Graph) : DepthFirst :=
  (List.range g.size).foldl (fun d node => if node ∈ d.finished then d else visit g [] d node)
    ⟨[], []⟩

end DepthFirst

namespace Search

variable {g : Graph} {s s' : Search} {d : DepthFirst} {below : Array Frame} {top : Frame}
  {n target : Nat}

/-- The search has finished the same nodes as the recursive one and found the same cycles. -/
structure Agrees (g : Graph) (s : Search) (d : DepthFirst) : Prop where
  finished : ∀ {n : Nat}, n < g.size → (n ∈ d.finished ↔ s.mark n = .done)
  cycles : s.cycles.toList = d.cycles

theorem dropWhile_ne_eq_drop {path : List Nat} {i : Nat} (hd : path.Nodup)
    (hi : path[i]? = some n) : path.dropWhile (· != n) = path.drop i := by
  induction path generalizing i with
  | nil => simp
  | cons node rest ih =>
    cases i with
    | zero =>
      have he : node = n := by simpa using hi
      simp [he]
    | succ i =>
      rw [List.getElem?_cons_succ] at hi
      have hne : node ≠ n := fun he => (List.nodup_cons.1 hd).1 (he ▸ List.mem_of_getElem? hi)
      rw [List.dropWhile_cons_of_pos (by simpa using hne), ih hd.of_cons hi, List.drop_succ_cons]

theorem Layout.cycleTo_eq_dropWhile (h : Layout g s) (hm : s.mark n = .onPath) :
    s.cycleTo n = s.path.dropWhile (· != n) ++ [n] := by
  obtain ⟨i, hi⟩ := List.mem_iff_getElem?.1 (h.mark_onPath.1 hm)
  rw [Search.cycleTo_eq (h.depth_path hi), dropWhile_ne_eq_drop h.nodup hi]

theorem Agrees.advance (h : Agrees g s d) : Agrees g s.advance d := ⟨h.finished, h.cycles⟩

theorem Agrees.close (h : Agrees g s d) (hl : Layout g s) (hf : s.frames = below.push top)
    (ht : (g.next top.node)[top.edge]? = some target) (hm : s.mark target = .onPath) :
    Agrees g { s.advance with cycles := s.cycles.push (s.advance.cycleTo target) }
      (d.close s.path target) where
  finished := h.finished
  cycles := by
    have ha := hl.advance hf (Array.getElem?_eq_some_iff.1 ht).1
    rw [Array.toList_push, h.cycles, ha.cycleTo_eq_dropWhile hm, path_advance hf]
    rfl

theorem Agrees.enter (h : Agrees g s d) (hm : s.mark n = .unvisited) : Agrees g (s.enter n) d where
  finished := by
    intro i hi
    rw [h.finished hi, mark_enter (lt_size_of_mark (by simp [hm]))]
    split
    · rename_i he
      simp [← he, hm]
    · rfl
  cycles := h.cycles

theorem Agrees.leave (h : Agrees g s d) (hm : s.mark n = .onPath) :
    Agrees g (s.leave n) (d.finish n) where
  finished := by
    intro i hi
    rw [mark_leave (lt_size_of_mark (by simp [hm])), DepthFirst.finish, List.mem_cons,
      h.finished hi]
    by_cases he : n = i
    · simp [he]
    · simp [he, Ne.symm he]
  cycles := h.cycles

/-- Turns lead from one state to the other. -/
def Turned (g : Graph) : Search → Search → Prop :=
  Relation.ReflTransGen fun s s' => s.frames ≠ #[] ∧ s' = s.turn g

/-- Turns lead to a state with those frames that agrees with the recursive search. -/
def Attains (g : Graph) (s : Search) (frames : Array Frame) (d : DepthFirst) : Prop :=
  ∃ s', Turned g s s' ∧ s'.frames = frames ∧ Invariant g s' ∧ Agrees g s' d

theorem Attains.of_turned {frames : Array Frame} (h : Turned g s s') (ha : Attains g s' frames d) :
    Attains g s frames d := by
  obtain ⟨t, ht, hrest⟩ := ha
  exact ⟨t, h.trans ht, hrest⟩

theorem turned_turn (hf : s.frames = below.push top) : Turned g s (s.turn g) :=
  .single ⟨by simp [hf], rfl⟩

/-- The first of the edges that are left is the one to follow next. -/
theorem next_of_drop {rest : List Nat}
    (h : (g.next top.node).toList.drop top.edge = target :: rest) :
    (g.next top.node)[top.edge]? = some target ∧
      (g.next top.node).toList.drop (top.edge + 1) = rest := by
  constructor
  · rw [← Array.getElem?_toList, ← Nat.add_zero top.edge, ← List.getElem?_drop, h]
    rfl
  · rw [← List.tail_drop, h]
    rfl

/-- Turns from a frame that has just been put on the path take it off again, having visited its
node as the recursion does. -/
def VisitsAlike (g : Graph) (path : List Nat) (d : DepthFirst) (node : Nat) : Prop :=
  ∀ (s : Search) (below : Array Frame), s.frames = below.push ⟨node, 0⟩ → Invariant g s →
    s.path = path ++ [node] → Agrees g s d →
    Attains g s below (DepthFirst.visit g path d node)

/-- Turns from a frame with some edges left come to have followed them as the recursion does. -/
def FollowsAlike (g : Graph) (path : List Nat) (d : DepthFirst) (targets : List Nat) : Prop :=
  ∀ (s : Search) (below : Array Frame) (top : Frame), s.frames = below.push top →
    Invariant g s → s.path = path → (g.next top.node).toList.drop top.edge = targets →
    Agrees g s d →
    Attains g s (below.push ⟨top.node, (g.next top.node).size⟩)
      (DepthFirst.follow g path d targets)

theorem FollowsAlike.visitsAlike (hg : g.WellFormed) {path : List Nat}
    (h : FollowsAlike g (path ++ [n]) d (g.next n).toList) : VisitsAlike g path d n := by
  intro s below hf hi hp ha
  obtain ⟨t, hturned, hft, hit, hat⟩ := h s below ⟨n, 0⟩ hf hi hp rfl ha
  have hturn := turn_of_none hft (Array.getElem?_eq_none le_rfl)
  refine ⟨t.turn g, hturned.trans (turned_turn hft), ?_, hit.turn hg hft, ?_⟩
  · rw [hturn, Search.leave, hft, Array.pop_push]
  · rw [hturn, DepthFirst.visit]
    exact hat.leave (hit.mark_top hft)

theorem followsAlike (hg : g.WellFormed) (path : List Nat) (d : DepthFirst)
    (targets : List Nat) : FollowsAlike g path d targets := by
  induction path, d, targets using DepthFirst.follow.induct g (VisitsAlike g) with
  | case1 path d node ih => exact ih.visitsAlike hg
  | case2 path d =>
    intro s below top hf hi hp ht ha
    have hle : top.edge ≤ (g.next top.node).size := hi.edge_le (by simp [hf])
    have he : top.edge = (g.next top.node).size := by
      have := List.drop_eq_nil_iff.1 ht
      rw [Array.length_toList] at this
      omega
    refine ⟨s, .refl, ?_, hi, ?_⟩
    · rw [hf, ← he]
    · rwa [DepthFirst.follow]
  | case3 path d target rest hmem ih =>
    intro s below top hf hi hp ht ha
    obtain ⟨hget, hdrop⟩ := next_of_drop ht
    have hm : s.mark target = .onPath := hi.mark_onPath.2 (hp ▸ hmem)
    have hturn := turn_of_onPath hf hget hm
    have hclosed := ha.close hi.toLayout hf hget hm
    rw [DepthFirst.follow, if_pos hmem]
    rw [hp, ← hturn] at hclosed
    refine .of_turned (turned_turn hf)
      (ih (s.turn g) below ⟨top.node, top.edge + 1⟩ ?_ (hi.turn hg hf) ?_ hdrop hclosed)
    · rw [hturn]
      exact frames_advance hf
    · rw [hturn, ← hp]
      exact path_advance hf
  | case4 path d target rest hmem hfin ih =>
    intro s below top hf hi hp ht ha
    obtain ⟨hget, hdrop⟩ := next_of_drop ht
    have hm : s.mark target = .done :=
      (ha.finished (hg.next_lt (mem_next_of_getElem? hget))).1 hfin
    have hturn := turn_of_done hf hget hm
    rw [DepthFirst.follow, if_neg hmem, if_pos hfin]
    refine .of_turned (turned_turn hf)
      (ih (s.turn g) below ⟨top.node, top.edge + 1⟩ ?_ (hi.turn hg hf) ?_ hdrop ?_)
    · rw [hturn, frames_advance hf]
    · rw [hturn, path_advance hf, hp]
    · rw [hturn]
      exact ha.advance
  | case5 path d target rest hmem hfin ihvisit ih =>
    intro s below top hf hi hp ht ha
    obtain ⟨hget, hdrop⟩ := next_of_drop ht
    have hm : s.mark target = .unvisited := by
      cases hm : s.mark target with
      | unvisited => rfl
      | onPath => exact (hmem (hp ▸ hi.mark_onPath.1 hm)).elim
      | done => exact (hfin ((ha.finished (hg.next_lt (mem_next_of_getElem? hget))).2 hm)).elim
    have hturn := turn_of_unvisited hf hget hm
    -- The node that is entered comes back with the frame below it at its next edge.
    obtain ⟨t, hturned, hft, hit, hat⟩ :=
      ihvisit (s.turn g) (below.push ⟨top.node, top.edge + 1⟩)
        (by rw [hturn, Search.enter, frames_advance hf]) (hi.turn hg hf)
        (by rw [hturn, path_enter, path_advance hf, hp])
        (by rw [hturn]; exact ha.advance.enter hm)
    have hpt : t.path = path := by
      rw [← hp, path_eq_append hft, path_eq_append hf]
    rw [DepthFirst.follow, if_neg hmem, if_neg hfin]
    exact .of_turned ((turned_turn hf).trans hturned)
      (ih t below ⟨top.node, top.edge + 1⟩ hft hit hpt hdrop hat)

/-- Turns that lead to an empty path are all that there are. -/
theorem exhaust_eq_of_turned (hg : g.WellFormed) (ht : Turned g s s') (he : s'.frames = #[])
    {fuel : Nat} (hi : Invariant g s) (hr : remaining g s ≤ fuel) : exhaust g fuel s = s' := by
  induction ht using Relation.ReflTransGen.head_induction_on generalizing fuel with
  | refl => cases fuel <;> simp [exhaust, he]
  | head hstep _ ih =>
    obtain ⟨hne, rfl⟩ := hstep
    obtain ⟨below, top, hf⟩ := exists_push_of_ne_empty hne
    have hturn := hi.toLayout.remaining_turn hg hf
    cases fuel with
    | zero => omega
    | succ fuel =>
      rw [exhaust, if_neg (by simpa using hne)]
      exact ih (hi.turn hg hf) (by omega)

theorem Resting.agrees_visit (h : Resting g s) (hg : g.WellFormed) (ha : Agrees g s d)
    (hn : n < g.size) :
    Agrees g (Search.visit g s n) (if n ∈ d.finished then d else DepthFirst.visit g [] d n) := by
  have hfin := ha.finished hn
  cases hm : s.mark n with
  | onPath => exact (h.mark_ne_onPath hm).elim
  | done => rwa [if_pos (hfin.2 hm), Search.visit, if_neg (by simp [hm])]
  | unvisited =>
    rw [if_neg (by simp [hfin, hm]), Search.visit, if_pos hm]
    have hi := h.invariant.enter h.frames_eq hm
    have hr : remaining g (s.enter n) ≤ g.size + g.edgeCount := by
      rw [remaining_enter hn h.invariant.marks_size hm]
      exact h.remaining_le
    obtain ⟨t, hturned, hft, -, hat⟩ := (followsAlike hg ([] ++ [n]) d _).visitsAlike hg (s.enter n)
      #[] (by simp [Search.enter, h.frames_eq]) hi (by simp [path, Search.enter, h.frames_eq])
      (ha.enter hm)
    rwa [exhaust_eq_of_turned hg hturned hft hi hr]

theorem Resting.agrees_foldl_visit (hg : g.WellFormed) (nodes : List Nat)
    (hn : ∀ n ∈ nodes, n < g.size) {s : Search} {d : DepthFirst} (h : Resting g s)
    (ha : Agrees g s d) :
    Agrees g (nodes.foldl (Search.visit g) s)
      (nodes.foldl (fun d n => if n ∈ d.finished then d else DepthFirst.visit g [] d n) d) := by
  induction nodes generalizing s d with
  | nil => exact ha
  | cons node rest ih =>
    rw [List.forall_mem_cons] at hn
    exact ih hn.2 (h.visit hg node).1 (h.agrees_visit hg ha hn.1)

theorem agrees_start (g : Graph) : Agrees g (start g) ⟨[], []⟩ := by
  refine ⟨fun {n} hn => ?_, rfl⟩
  simp [mark_start, hn]

end Search

theorem WellFormed.cycles_eq {g : Graph} (hg : g.WellFormed) :
    g.cycles = (DepthFirst.all g).cycles :=
  (Search.Resting.agrees_foldl_visit hg _ (fun _ hn => List.mem_range.1 hn)
    (Search.resting_start g) (Search.agrees_start g)).cycles

/-- Of a graph made from edges, the search with frames finds the cycles that the recursion finds,
in its order; both follow the edges of a node in the order in which they first came. -/
theorem cycles_eq_depthFirst (names : List String) (edges : List Edge) :
    (ofEdges names edges).cycles = (DepthFirst.all (ofEdges names edges)).cycles ∧
      ∀ node, ((ofEdges names edges).next node).toList =
        (targets names edges node).eraseDups :=
  ⟨(wellFormed_ofEdges names edges).cycles_eq, toList_next_ofEdges names edges⟩

end AgentSpec.Graph
