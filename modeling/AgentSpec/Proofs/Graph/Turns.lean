import AgentSpec.Proofs.Graph.Search
import Mathlib.Algebra.BigOperators.Fin
import Mathlib.Tactic.Ring

/-! How many turns a search takes: one for each node and one for each edge. -/
namespace AgentSpec.Graph
open scoped BigOperators

theorem sum_size_next (g : Graph) : ∑ n ∈ Finset.range g.size, (g.next n).size = g.edgeCount := by
  have hn : ∀ i : Fin g.successors.toList.length, g.next i = g.successors.toList[i] := fun i => by
    have hi : (i : Nat) < g.successors.size := i.isLt
    simp [next, hi]
  have hsum : g.edgeCount = (g.successors.toList.map Array.size).sum := by
    rw [edgeCount, ← Array.foldl_toList, List.sum_eq_foldl, List.foldl_map]
  rw [Finset.sum_range, hsum, ← Fin.sum_univ_fun_getElem g.successors.toList]
  exact Finset.sum_congr rfl fun i _ => congrArg Array.size (hn i)

namespace Search

variable {g : Graph} {s : Search} {below : Array Frame} {top : Frame} {n target : Nat}

/-- The turns that an unvisited node will take: one for each of its edges and one to leave it. -/
def pendingTurns (g : Graph) (s : Search) (n : Nat) : Nat :=
  if s.mark n = .unvisited then 1 + (g.next n).size else 0

/-- The turns that are left: those of unvisited nodes and those of the nodes on the path. -/
def remaining (g : Graph) (s : Search) : Nat :=
  ∑ n ∈ Finset.range g.size, pendingTurns g s n +
    (s.frames.toList.map fun frame => 1 + (g.next frame.node).size - frame.edge).sum

theorem remaining_start (g : Graph) : remaining g (start g) = g.size + g.edgeCount := by
  have hp : ∀ n ∈ Finset.range g.size, pendingTurns g (start g) n = 1 + (g.next n).size :=
    fun n hn => by rw [pendingTurns, mark_start, if_pos (Finset.mem_range.1 hn), if_pos rfl]
  have hf : (start g).frames.toList = [] := rfl
  unfold remaining
  rw [Finset.sum_congr rfl hp, Finset.sum_add_distrib, sum_size_next, hf]
  simp

/-- An unvisited node that is entered takes its turns with it. -/
theorem remaining_enter (hn : n < g.size) (hs : s.marks.size = g.size)
    (hm : s.mark n = .unvisited) :
    remaining g (s.enter n) = remaining g s := by
  have hmem : n ∈ Finset.range g.size := Finset.mem_range.2 hn
  have hme := mark_enter (hs ▸ hn : n < s.marks.size)
  have ho : ∀ i ∈ (Finset.range g.size).erase n,
      pendingTurns g (s.enter n) i = pendingTurns g s i := fun i hi => by
    rw [pendingTurns, hme, if_neg (Finset.ne_of_mem_erase hi).symm, pendingTurns]
  have hself : pendingTurns g (s.enter n) n = 0 := by
    unfold pendingTurns
    rw [hme, if_pos rfl, if_neg (by simp)]
  have hold : pendingTurns g s n = 1 + (g.next n).size := if_pos hm
  have hfr : (s.enter n).frames.toList = s.frames.toList ++ [⟨n, 0⟩] := by simp [enter]
  rw [remaining, remaining, ← Finset.add_sum_erase _ _ hmem, ← Finset.add_sum_erase _ _ hmem,
    Finset.sum_congr rfl ho, hself, hold, hfr]
  simp
  ring

theorem remaining_advance (hf : s.frames = below.push top)
    (ht : top.edge < (g.next top.node).size) :
    remaining g s.advance + 1 = remaining g s := by
  have hp : ∀ i, pendingTurns g s.advance i = pendingTurns g s i := fun _ => rfl
  simp only [remaining, hp, frames_advance hf, hf, Array.toList_push, List.map_append,
    List.sum_append, List.map_cons, List.map_nil, List.sum_cons, List.sum_nil]
  omega

theorem Layout.remaining_leave (h : Layout g s) (hf : s.frames = below.push top)
    (hno : (g.next top.node)[top.edge]? = none) :
    remaining g (s.leave top.node) + 1 = remaining g s := by
  have htop := h.mark_top hf
  have hp : ∀ i, pendingTurns g (s.leave top.node) i = pendingTurns g s i := fun i => by
    rw [pendingTurns, mark_leave (lt_size_of_mark (by simp [htop])), pendingTurns]
    split
    · rename_i he
      simp [← he, htop]
    · rfl
  have hfr : (s.leave top.node).frames = below := by simp [Search.leave, hf]
  have he : top.edge = (g.next top.node).size := by
    have hle : top.edge ≤ (g.next top.node).size := h.edge_le (by simp [hf])
    rw [Array.getElem?_eq_none_iff] at hno
    omega
  simp only [remaining, hp, hfr, hf, Array.toList_push, List.map_append,
    List.sum_append, List.map_cons, List.map_nil, List.sum_cons, List.sum_nil]
  omega

/-- Every turn is one of those that were left. -/
theorem Layout.remaining_turn (h : Layout g s) (hg : g.WellFormed)
    (hf : s.frames = below.push top) :
    remaining g (s.turn g) + 1 = remaining g s := by
  refine turn_cases (motive := fun s' => remaining g s' + 1 = remaining g s) hf
    (fun hno => h.remaining_leave hf hno) (fun target ht _ => ?_) (fun target ht hm => ?_)
    (fun target ht _ => ?_)
  all_goals have hlt := (Array.getElem?_eq_some_iff.1 ht).1
  · exact remaining_advance hf hlt
  · rw [remaining_enter (hg.next_lt (mem_next_of_getElem? ht)) (h.advance hf hlt).marks_size hm]
    exact remaining_advance hf hlt
  · exact remaining_advance hf hlt

theorem exists_push_of_ne_empty (h : s.frames ≠ #[]) :
    ∃ below top, s.frames = Array.push below top := by
  obtain ⟨top, ht⟩ : ∃ top, s.frames.back? = some top := by
    cases hb : s.frames.back? with
    | none => exact (h (Array.back?_eq_none_iff.1 hb)).elim
    | some top => exact ⟨top, rfl⟩
  obtain ⟨below, hf⟩ := Array.back?_eq_some_iff.1 ht
  exact ⟨below, top, hf⟩

/-- What every turn keeps, turns to the end keep. -/
theorem exhaust_induction {motive : Search → Prop} (hs : motive s)
    (turn : ∀ s below top, s.frames = Array.push below top → motive s → motive (s.turn g))
    (fuel : Nat) : motive (exhaust g fuel s) := by
  induction fuel generalizing s with
  | zero => exact hs
  | succ fuel ih =>
    unfold exhaust
    split
    · exact hs
    · rename_i he
      obtain ⟨below, top, hf⟩ := exists_push_of_ne_empty (by simpa using he)
      exact ih (turn s below top hf hs)

/-- With turns for all that remains the path gets empty. -/
theorem frames_exhaust (hg : g.WellFormed) {fuel : Nat} (h : Invariant g s)
    (hr : remaining g s ≤ fuel) : (exhaust g fuel s).frames = #[] := by
  induction fuel generalizing s with
  | zero =>
    by_contra he
    obtain ⟨below, top, hf⟩ := exists_push_of_ne_empty he
    have := h.toLayout.remaining_turn hg hf
    omega
  | succ fuel ih =>
    unfold exhaust
    split
    · rename_i he
      simpa using he
    · rename_i he
      obtain ⟨below, top, hf⟩ := exists_push_of_ne_empty (by simpa using he)
      have := h.toLayout.remaining_turn hg hf
      exact ih (h.turn hg hf) (by omega)

end Search

end AgentSpec.Graph
