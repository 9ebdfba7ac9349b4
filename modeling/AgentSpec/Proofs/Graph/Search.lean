import AgentSpec.Graph.Cycles
import AgentSpec.Proofs.Graph.Edges
import Mathlib.Data.List.Chain

/-! What the frames, marks and depths of a search have to do with each other at every turn. -/
namespace AgentSpec.Graph

/-- The frame has last followed the edge to the node of the frame above it. -/
def Frame.Leads (g : Graph) (frame above : Frame) : Prop :=
  ∃ k, frame.edge = k + 1 ∧ (g.next frame.node)[k]? = some above.node

namespace Search

/-- The nodes on the path from its first to its last. -/
def path (s : Search) : List Nat := s.frames.toList.map (·.node)

/-- The nodes on the path are those marked so, in the order of the frames and of their depths. -/
structure Layout (g : Graph) (s : Search) : Prop where
  marks_size : s.marks.size = g.size
  depth_size : s.depth.size = g.size
  mark_onPath : ∀ {n : Nat}, s.mark n = .onPath ↔ n ∈ s.path
  nodup : s.path.Nodup
  depth_path : ∀ {i n : Nat}, s.path[i]? = some n → s.depth[n]? = some i
  edge_le : ∀ {frame : Frame}, frame ∈ s.frames → frame.edge ≤ (g.next frame.node).size
  linked : s.frames.toList.IsChain (Frame.Leads g)

variable {g : Graph} {s : Search} {below : Array Frame} {top : Frame} {n : Nat}

theorem mark_enter (hn : n < s.marks.size) (i : Nat) :
    (s.enter n).mark i = if n = i then .onPath else s.mark i := by
  simp only [mark, enter, Array.getD_eq_getD_getElem?, Array.getElem?_setIfInBounds]
  by_cases he : n = i
  · simp [← he, hn]
  · simp [he]

theorem mark_leave (hn : n < s.marks.size) (i : Nat) :
    (s.leave n).mark i = if n = i then .done else s.mark i := by
  simp only [mark, leave, Array.getD_eq_getD_getElem?, Array.getElem?_setIfInBounds]
  by_cases he : n = i
  · simp [← he, hn]
  · simp [he]

theorem lt_size_of_mark (h : s.mark n ≠ .done) : n < s.marks.size := by
  by_contra hn
  exact h (by rw [mark, Array.getD_eq_getD_getElem?, Array.getElem?_eq_none (by omega),
    Option.getD_none])

@[simp] theorem mark_advance (i : Nat) : s.advance.mark i = s.mark i := rfl

theorem path_eq_append (hf : s.frames = below.push top) :
    s.path = below.toList.map (·.node) ++ [top.node] := by
  simp [path, hf]

theorem frames_advance (hf : s.frames = below.push top) :
    s.advance.frames = below.push ⟨top.node, top.edge + 1⟩ := by
  unfold advance
  apply Array.ext_getElem?
  intro i
  simp only [hf, Array.getElem?_modify, Array.getElem?_push, Array.size_push]
  by_cases hi : i = below.size
  · simp [hi]
  · rw [if_neg (by omega), if_neg hi, if_neg hi]

theorem path_advance (hf : s.frames = below.push top) : s.advance.path = s.path := by
  rw [path_eq_append hf, path_eq_append (frames_advance hf)]

theorem path_enter : (s.enter n).path = s.path ++ [n] := by
  simp [path, enter]

theorem path_leave (hf : s.frames = below.push top) :
    (s.leave top.node).path = below.toList.map (·.node) := by
  simp [path, leave, hf]

theorem Layout.advance (h : Layout g s) (hf : s.frames = below.push top)
    (ht : top.edge < (g.next top.node).size) : Layout g s.advance := by
  have hfr := frames_advance hf
  have hp := path_advance hf
  refine ⟨h.marks_size, h.depth_size, ?_, ?_, ?_, ?_, ?_⟩
  · intro n
    rw [mark_advance, hp]
    exact h.mark_onPath
  · rw [hp]
    exact h.nodup
  · intro i n hi
    rw [hp] at hi
    exact h.depth_path hi
  · intro frame hm
    rw [hfr, Array.mem_push] at hm
    rcases hm with hm | rfl
    · exact h.edge_le (by rw [hf]; exact Array.mem_push_of_mem _ hm)
    · exact ht
  · have hl := h.linked
    rw [hf, Array.toList_push, List.isChain_append] at hl
    rw [hfr, Array.toList_push, List.isChain_append]
    refine ⟨hl.1, List.isChain_singleton _, fun x hx y hy => ?_⟩
    obtain ⟨k, hk, hg⟩ := hl.2.2 x hx top rfl
    cases hy
    exact ⟨k, hk, hg⟩

theorem Layout.enter (h : Layout g s) (hn : n < g.size) (hu : s.mark n = .unvisited)
    (hl : ∀ top, s.frames.back? = some top → top.Leads g ⟨n, 0⟩) : Layout g (s.enter n) := by
  have hm : n < s.marks.size := h.marks_size ▸ hn
  have hnew : n ∉ s.path := fun hp => by
    rw [h.mark_onPath.2 hp] at hu
    cases hu
  refine ⟨?_, ?_, ?_, ?_, ?_, ?_, ?_⟩
  · simpa [Search.enter] using h.marks_size
  · simpa [Search.enter] using h.depth_size
  · intro i
    rw [mark_enter hm, path_enter, List.mem_append, List.mem_singleton, ← h.mark_onPath]
    by_cases hi : n = i
    · simp [hi]
    · simp [hi, Ne.symm hi]
  · rw [path_enter, ← List.concat_eq_append]
    exact h.nodup.concat hnew
  · intro i m hi
    rw [path_enter, List.getElem?_append] at hi
    simp only [Search.enter, Array.getElem?_setIfInBounds]
    split at hi
    · have hne : n ≠ m := fun he => hnew (he ▸ List.mem_of_getElem? hi)
      rw [if_neg hne]
      exact h.depth_path hi
    · rename_i hlen
      obtain ⟨hz, rfl⟩ : i - s.path.length = 0 ∧ n = m := by
        simpa [List.getElem?_singleton] using hi
      have hs : s.path.length = s.frames.size := by simp [path]
      rw [if_pos rfl, if_pos (h.depth_size ▸ hn)]
      congr 1
      omega
  · intro frame hfr
    rcases Array.mem_push.1 hfr with hfr | rfl
    · exact h.edge_le hfr
    · exact Nat.zero_le _
  · unfold Search.enter
    rw [Array.toList_push, List.isChain_append]
    refine ⟨h.linked, List.isChain_singleton _, fun x hx y hy => ?_⟩
    cases hy
    refine hl x ?_
    rwa [← Array.getLast?_toList]

theorem Layout.leave (h : Layout g s) (hf : s.frames = below.push top) :
    Layout g (s.leave top.node) := by
  have hp := path_eq_append hf
  have hpl := path_leave hf
  have hd := h.nodup
  rw [hp, ← List.concat_eq_append, List.nodup_concat] at hd
  have htop : s.mark top.node = .onPath := h.mark_onPath.2 (by simp [hp])
  have hm : top.node < s.marks.size := lt_size_of_mark (by simp [htop])
  have hfr : (s.leave top.node).frames = below := by simp [Search.leave, hf]
  have hl := h.linked
  rw [hf, Array.toList_push, List.isChain_append] at hl
  refine ⟨?_, h.depth_size, ?_, ?_, ?_, ?_, ?_⟩
  · simpa [Search.leave] using h.marks_size
  · intro i
    rw [mark_leave hm, hpl]
    by_cases hi : top.node = i
    · subst hi
      simpa using hd.1
    · rw [if_neg hi, h.mark_onPath, hp]
      simp [Ne.symm hi]
  · rw [hpl]
    exact hd.2
  · intro i m hi
    rw [hpl] at hi
    have hlt := (List.getElem?_eq_some_iff.1 hi).1
    exact h.depth_path (by rw [hp, List.getElem?_append_left hlt, hi])
  · intro frame hmem
    rw [hfr] at hmem
    exact h.edge_le (by rw [hf]; exact Array.mem_push_of_mem _ hmem)
  · rw [hfr]
    exact hl.1

/-- The edges followed so far: all of a finished node, and of a node on the path those in front of
the one that its frame stands at. -/
def Taken (g : Graph) (s : Search) (a b : Nat) : Prop :=
  (s.mark a = .done ∧ b ∈ g.next a) ∨
    ∃ frame ∈ s.frames, frame.node = a ∧ ∃ k < frame.edge, (g.next a)[k]? = some b

/-- What holds between any two turns of a search. -/
structure Invariant (g : Graph) (s : Search) : Prop extends Layout g s where
  visited : ∀ {a b : Nat}, Taken g s a b → s.mark b ≠ .unvisited

theorem Layout.frame_unique (h : Layout g s) (hf : s.frames = below.push top) {frame : Frame}
    (hm : frame ∈ s.frames) (hn : frame.node = top.node) : frame = top := by
  rw [hf, Array.mem_push] at hm
  rcases hm with hm | rfl
  · have hd := h.nodup
    rw [path_eq_append hf, ← List.concat_eq_append, List.nodup_concat] at hd
    exact (hd.1 (List.mem_map.2 ⟨frame, by simpa using hm, hn⟩)).elim
  · rfl

theorem Layout.mark_top (h : Layout g s) (hf : s.frames = below.push top) :
    s.mark top.node = .onPath := h.mark_onPath.2 (by simp [path_eq_append hf])

theorem mem_next_of_getElem? {a b k : Nat} (h : (g.next a)[k]? = some b) : b ∈ g.next a :=
  Array.mem_of_getElem? h

variable {target : Nat}

theorem taken_advance (hf : s.frames = below.push top)
    (ht : (g.next top.node)[top.edge]? = some target) {a b : Nat} :
    Taken g s.advance a b ↔ Taken g s a b ∨ (a = top.node ∧ b = target) := by
  have hk : (∃ k < top.edge + 1, (g.next top.node)[k]? = some b) ↔
      (∃ k < top.edge, (g.next top.node)[k]? = some b) ∨ b = target := by
    constructor
    · intro h
      obtain ⟨k, hk, hb⟩ := h
      rcases Nat.lt_succ_iff_lt_or_eq.1 hk with hk | rfl
      · exact .inl ⟨k, hk, hb⟩
      · exact .inr (Option.some.inj (hb.symm.trans ht))
    · intro h
      rcases h with ⟨k, hk, hb⟩ | rfl
      · exact ⟨k, by omega, hb⟩
      · exact ⟨top.edge, by omega, ht⟩
  simp only [Taken, mark_advance, frames_advance hf, hf, Array.mem_push, or_and_right, exists_or,
    exists_eq_left]
  constructor
  · intro h
    rcases h with h | h | ⟨rfl, h⟩
    · exact .inl (.inl h)
    · exact .inl (.inr (.inl h))
    · rcases hk.1 h with h | h
      · exact .inl (.inr (.inr ⟨rfl, h⟩))
      · exact .inr ⟨rfl, h⟩
  · intro h
    rcases h with (h | h | ⟨rfl, h⟩) | ⟨rfl, h⟩
    · exact .inl h
    · exact .inr (.inl h)
    · exact .inr (.inr ⟨rfl, hk.2 (.inl h)⟩)
    · exact .inr (.inr ⟨rfl, hk.2 (.inr h)⟩)

/-- An edge is followed only once. -/
theorem Layout.not_taken (h : Layout g s) (hg : g.WellFormed) (hf : s.frames = below.push top)
    (ht : (g.next top.node)[top.edge]? = some target) : ¬ Taken g s top.node target := by
  intro h
  rcases h with ⟨hd, -⟩ | ⟨frame, hm, hn, k, hk, hb⟩
  · rw [h.mark_top hf] at hd
    cases hd
  · rw [h.frame_unique hf hm hn] at hk
    have he : k = top.edge := by
      obtain ⟨hk', hb⟩ := Array.getElem?_eq_some_iff.1 hb
      obtain ⟨ht', ht⟩ := Array.getElem?_eq_some_iff.1 ht
      have heq : (g.next top.node).toList[k] = (g.next top.node).toList[top.edge] := by
        simpa using hb.trans ht.symm
      exact (hg.next_nodup top.node).getElem_inj_iff.1 heq
    omega

theorem taken_enter (hn : n < s.marks.size) (hu : s.mark n = .unvisited) {a b : Nat} :
    Taken g (s.enter n) a b ↔ Taken g s a b := by
  have hm : (s.enter n).mark a = .done ↔ s.mark a = .done := by
    rw [mark_enter hn]
    split
    · rename_i he
      simp [← he, hu]
    · rfl
  have hfr : (s.enter n).frames = s.frames.push ⟨n, 0⟩ := rfl
  simp [Taken, hm, hfr, or_and_right, exists_or]

theorem Layout.taken_leave (h : Layout g s) (hf : s.frames = below.push top)
    (hno : (g.next top.node)[top.edge]? = none) {a b : Nat} :
    Taken g (s.leave top.node) a b ↔ Taken g s a b := by
  have htop := h.mark_top hf
  have hm := mark_leave (lt_size_of_mark (s := s) (n := top.node) (by simp [htop])) a
  have hfr : (s.leave top.node).frames = below := by simp [Search.leave, hf]
  simp only [Taken, hm, hfr]
  constructor
  · intro h
    rcases h with ⟨hd, hb⟩ | ⟨frame, hmem, ha⟩
    · by_cases ha : top.node = a
      · obtain ⟨k, hk, hb⟩ := Array.getElem_of_mem hb
        rw [Array.getElem?_eq_none_iff] at hno
        refine .inr ⟨top, by simp [hf], ha, k, by subst ha; omega, ?_⟩
        rw [Array.getElem?_eq_getElem hk, hb]
      · rw [if_neg ha] at hd
        exact .inl ⟨hd, hb⟩
    · exact .inr ⟨frame, by rw [hf]; exact Array.mem_push_of_mem _ hmem, ha⟩
  · intro h
    rcases h with ⟨hd, hb⟩ | ⟨frame, hmem, ha, k, hk, hb⟩
    · exact .inl ⟨by rw [hd]; split <;> rfl, hb⟩
    · rw [hf, Array.mem_push] at hmem
      rcases hmem with hmem | rfl
      · exact .inr ⟨frame, hmem, ha, k, hk, hb⟩
      · exact .inl ⟨if_pos ha, mem_next_of_getElem? hb⟩

theorem turn_of_none (hf : s.frames = below.push top)
    (hno : (g.next top.node)[top.edge]? = none) : s.turn g = s.leave top.node := by
  simp only [turn, hf, Array.back?_push, hno]

theorem turn_of_onPath (hf : s.frames = below.push top)
    (ht : (g.next top.node)[top.edge]? = some target) (hm : s.mark target = .onPath) :
    s.turn g = { s.advance with cycles := s.cycles.push (s.advance.cycleTo target) } := by
  simp only [turn, hf, Array.back?_push, ht, mark_advance, hm]
  rfl

theorem turn_of_unvisited (hf : s.frames = below.push top)
    (ht : (g.next top.node)[top.edge]? = some target) (hm : s.mark target = .unvisited) :
    s.turn g = s.advance.enter target := by
  simp only [turn, hf, Array.back?_push, ht, mark_advance, hm]

theorem turn_of_done (hf : s.frames = below.push top)
    (ht : (g.next top.node)[top.edge]? = some target) (hm : s.mark target = .done) :
    s.turn g = s.advance := by
  simp only [turn, hf, Array.back?_push, ht, mark_advance, hm]

/-- A turn leaves the last node, closes a cycle, enters a node or passes one that is finished. -/
theorem turn_cases {motive : Search → Prop} (hf : s.frames = below.push top)
    (leave : (g.next top.node)[top.edge]? = none → motive (s.leave top.node))
    (close : ∀ target, (g.next top.node)[top.edge]? = some target → s.mark target = .onPath →
      motive { s.advance with cycles := s.cycles.push (s.advance.cycleTo target) })
    (enter : ∀ target, (g.next top.node)[top.edge]? = some target → s.mark target = .unvisited →
      motive (s.advance.enter target))
    (pass : ∀ target, (g.next top.node)[top.edge]? = some target → s.mark target = .done →
      motive s.advance) : motive (s.turn g) := by
  cases ht : (g.next top.node)[top.edge]? with
  | none =>
    rw [turn_of_none hf ht]
    exact leave ht
  | some target =>
    cases hm : s.mark target with
    | onPath =>
      rw [turn_of_onPath hf ht hm]
      exact close target ht hm
    | unvisited =>
      rw [turn_of_unvisited hf ht hm]
      exact enter target ht hm
    | done =>
      rw [turn_of_done hf ht hm]
      exact pass target ht hm

theorem Layout.advance_enter (h : Layout g s) (hg : g.WellFormed) (hf : s.frames = below.push top)
    (ht : (g.next top.node)[top.edge]? = some target) (hm : s.mark target = .unvisited) :
    Layout g (s.advance.enter target) := by
  have hlt := (Array.getElem?_eq_some_iff.1 ht).1
  refine (h.advance hf hlt).enter (hg.next_lt (mem_next_of_getElem? ht)) hm fun last hl => ?_
  rw [frames_advance hf, Array.back?_push] at hl
  cases hl
  exact ⟨top.edge, rfl, ht⟩

theorem Invariant.turn (h : Invariant g s) (hg : g.WellFormed) (hf : s.frames = below.push top) :
    Invariant g (s.turn g) := by
  refine turn_cases hf (fun hno => ?_) (fun target ht hm => ?_) (fun target ht hm => ?_)
    (fun target ht hm => ?_)
  · refine ⟨h.toLayout.leave hf, fun {a b} hab => ?_⟩
    rw [h.toLayout.taken_leave hf hno] at hab
    have hv := h.visited hab
    rw [mark_leave (lt_size_of_mark (by simp [h.mark_top hf]))]
    split
    · simp
    · exact hv
  · have ha := h.toLayout.advance hf (Array.getElem?_eq_some_iff.1 ht).1
    have hv : s.mark target ≠ .unvisited := by simp [hm]
    refine ⟨⟨ha.1, ha.2, ha.3, ha.4, ha.5, ha.6, ha.7⟩, fun {a b} hab => ?_⟩
    rcases (taken_advance hf ht).1 hab with hab | ⟨rfl, rfl⟩
    · exact h.visited hab
    · exact hv
  · have hn : target < s.advance.marks.size := lt_size_of_mark (by simp [hm])
    refine ⟨h.toLayout.advance_enter hg hf ht hm, fun {a b} hab => ?_⟩
    rw [taken_enter hn hm, taken_advance hf ht] at hab
    rw [mark_enter hn]
    split
    · simp
    · rename_i hne
      exact h.visited (hab.resolve_right fun he => hne he.2.symm)
  · have ha := h.toLayout.advance hf (Array.getElem?_eq_some_iff.1 ht).1
    refine ⟨ha, fun {a b} hab => ?_⟩
    rcases (taken_advance hf ht).1 hab with hab | ⟨rfl, rfl⟩
    · exact h.visited hab
    · simp [hm]

/-- Entering a node from outside needs an empty path. -/
theorem Invariant.enter (h : Invariant g s) (hf : s.frames = #[]) (hm : s.mark n = .unvisited) :
    Invariant g (s.enter n) := by
  have hn : n < s.marks.size := lt_size_of_mark (by simp [hm])
  refine ⟨h.toLayout.enter (h.marks_size ▸ hn) hm fun top ht => ?_, fun {a b} hab => ?_⟩
  · simp [hf] at ht
  · have hv := h.visited ((taken_enter hn hm).1 hab)
    rw [mark_enter hn]
    split
    · simp
    · exact hv

theorem mark_start (g : Graph) (n : Nat) :
    (start g).mark n = if n < g.size then .unvisited else .done := by
  unfold mark
  rw [start, Array.getD_eq_getD_getElem?, Array.getElem?_replicate]
  split <;> rfl

theorem not_taken_start (g : Graph) (a b : Nat) : ¬ Taken g (start g) a b := by
  intro h
  rcases h with ⟨hm, hb⟩ | ⟨frame, hm, -⟩
  · rw [mark_start, if_pos (lt_of_mem_next hb)] at hm
    cases hm
  · simp [start] at hm

theorem invariant_start (g : Graph) : Invariant g (start g) := by
  have hp : (start g).path = [] := rfl
  refine ⟨⟨?_, ?_, ?_, ?_, ?_, ?_, ?_⟩, ?_⟩
  · simp [start]
  · simp [start]
  · intro n
    rw [mark_start, hp]
    split <;> simp
  · simp [hp]
  · simp [hp]
  · simp [start]
  · simp [start]
  · exact fun {a b} hab => (not_taken_start g a b hab).elim

/-- What has been visited stays so. -/
theorem Layout.visited_turn (h : Layout g s) (hf : s.frames = below.push top) {i : Nat}
    (hi : s.mark i ≠ .unvisited) : (s.turn g).mark i ≠ .unvisited := by
  refine turn_cases (motive := fun s' => s'.mark i ≠ .unvisited) hf (fun _ => ?_)
    (fun _ _ _ => hi) (fun target _ hm => ?_) (fun _ _ _ => hi)
  · rw [mark_leave (lt_size_of_mark (by simp [h.mark_top hf]))]
    split
    · simp
    · exact hi
  · rw [mark_enter (lt_size_of_mark (by simp [hm]))]
    split
    · simp
    · exact hi

end Search

end AgentSpec.Graph
