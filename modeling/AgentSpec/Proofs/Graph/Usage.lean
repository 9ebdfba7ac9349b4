import AgentSpec.Graph.Usage
import AgentSpec.Proofs.Graph.Turns
import AgentSpec.Proofs.Loop

/-! The nodes that a start node makes use of, by the paths between them, and how many turns it takes
to find them. -/
namespace AgentSpec.Graph
open scoped BigOperators

variable {g : Graph} {marks : Array Bool} {stack : List Nat} {start node n : Nat}
  {state state' : Array Bool × List Nat}

/-- A path of any length, also of none. -/
def Reaches (g : Graph) : Nat → Nat → Prop := Relation.ReflTransGen fun a b => b ∈ g.next a

theorem lt_size_of_isMarked (h : isMarked marks n = true) : n < marks.size := by
  by_contra hn
  unfold isMarked at h
  rw [Array.getD_eq_getD_getElem?, Array.getElem?_eq_none (Nat.le_of_not_lt hn)] at h
  cases h

theorem isMarked_set (hn : node < marks.size) :
    isMarked (marks.setIfInBounds node true) n = true ↔ isMarked marks n = true ∨ n = node := by
  simp only [isMarked, Array.getD_eq_getD_getElem?, Array.getElem?_setIfInBounds]
  by_cases h : node = n
  · subst h
    simp [hn]
  · simp [h, Ne.symm h]

/-- The weight of all nodes that have no mark. -/
def unmarked (weight : Nat → Nat) (size : Nat) (marks : Array Bool) : Nat :=
  ∑ n ∈ Finset.range size, if isMarked marks n then 0 else weight n

theorem unmarked_set (weight : Nat → Nat) {size : Nat} (hs : marks.size = size)
    (hn : node < size) (hm : ¬ isMarked marks node = true) :
    unmarked weight size (marks.setIfInBounds node true) + weight node =
      unmarked weight size marks := by
  have hmem : node ∈ Finset.range size := Finset.mem_range.2 hn
  have hset : ∀ i, isMarked (marks.setIfInBounds node true) i = true ↔
      isMarked marks i = true ∨ i = node := fun i => isMarked_set (hs ▸ hn)
  have hother : ∀ i ∈ (Finset.range size).erase node,
      (if isMarked (marks.setIfInBounds node true) i = true then 0 else weight i) =
        if isMarked marks i = true then 0 else weight i := fun i hi => by
    have hne := Finset.ne_of_mem_erase hi
    simp only [hset, hne, or_false]
  rw [unmarked, unmarked, ← Finset.add_sum_erase _ _ hmem, ← Finset.add_sum_erase _ _ hmem,
    Finset.sum_congr rfl hother, if_pos ((hset node).2 (.inr rfl)), if_neg hm]
  omega

/-- The marks are those of a search from `start` that still has to look at the stack. -/
structure Spreads (g : Graph) (start : Nat) (marks : Array Bool) (stack : List Nat) : Prop where
  size : marks.size = g.size
  stack_lt : ∀ n ∈ stack, n < g.size
  sound : ∀ n, isMarked marks n = true ∨ n ∈ stack → g.Reaches start n
  start_seen : isMarked marks start = true ∨ start ∈ stack
  closed : ∀ a, isMarked marks a = true → ∀ b ∈ g.next a, isMarked marks b = true ∨ b ∈ stack

/-- One turn takes a node off the stack. If it has no mark, it gets one, and all that follow from it
are put on the stack. -/
def followTurn? (g : Graph) : Array Bool × List Nat → Option (Array Bool × List Nat)
  | (_, []) => none
  | (marks, node :: stack) =>
    some (if isMarked marks node then (marks, stack)
      else (marks.setIfInBounds node true,
        (g.next node).foldl (fun stack target => target :: stack) stack))

theorem markFollowing_eq (g : Graph) (fuel : Nat) (marks : Array Bool) (stack : List Nat) :
    g.markFollowing fuel marks stack = (settle (followTurn? g) fuel (marks, stack)).1 := by
  induction fuel generalizing marks stack with
  | zero => rfl
  | succ fuel ih =>
    cases stack with
    | nil => rfl
    | cons node stack =>
      simp only [markFollowing, settle, followTurn?]
      split
      · exact ih marks stack
      · exact ih _ _

theorem followTurn?_eq_none_iff : followTurn? g state = none ↔ state.2 = [] := by
  obtain ⟨marks, stack⟩ := state
  cases stack <;> simp [followTurn?]

/-- A bound on the turns that are left: one for every node on the stack, and one for every edge of a
node without a mark. -/
def followTurns (g : Graph) (state : Array Bool × List Nat) : Nat :=
  state.2.length + unmarked (fun n => (g.next n).size) g.size state.1

namespace Spreads

theorem skip (h : g.Spreads start marks (node :: stack)) (hm : isMarked marks node = true) :
    g.Spreads start marks stack where
  size := h.size
  stack_lt n hn := h.stack_lt n (List.mem_cons_of_mem _ hn)
  sound n hn := h.sound n (hn.imp_right (List.mem_cons_of_mem _))
  start_seen := h.start_seen.elim .inl fun hs =>
    (List.mem_cons.1 hs).elim (fun he => .inl (he ▸ hm)) .inr
  closed a ha b hb := (h.closed a ha b hb).elim .inl fun hs =>
    (List.mem_cons.1 hs).elim (fun he => .inl (he ▸ hm)) .inr

theorem mark (hg : g.WellFormed) (h : g.Spreads start marks (node :: stack)) :
    g.Spreads start (marks.setIfInBounds node true)
      ((g.next node).foldl (fun stack target => target :: stack) stack) := by
  have hn : node < marks.size := h.size ▸ h.stack_lt node (by simp)
  have hpush : ∀ n, n ∈ (g.next node).foldl (fun stack target => target :: stack) stack ↔
      n ∈ g.next node ∨ n ∈ stack := fun n => by
    rw [← Array.foldl_toList, List.foldl_flip_cons_eq_append', List.mem_append, List.mem_reverse,
      Array.mem_toList_iff]
  have hnode : g.Reaches start node := h.sound node (.inr (by simp))
  refine ⟨?_, fun n hm => ?_, fun n hm => ?_, ?_, fun a ha b hb => ?_⟩
  · rw [Array.size_setIfInBounds, h.size]
  · rcases (hpush n).1 hm with hm | hm
    · exact hg.next_lt hm
    · exact h.stack_lt n (List.mem_cons_of_mem _ hm)
  · rw [isMarked_set hn, hpush] at hm
    rcases hm with (hm | rfl) | hm | hm
    · exact h.sound n (.inl hm)
    · exact hnode
    · exact hnode.tail hm
    · exact h.sound n (.inr (List.mem_cons_of_mem _ hm))
  · rw [isMarked_set hn, hpush]
    rcases h.start_seen with hs | hs
    · exact .inl (.inl hs)
    · exact (List.mem_cons.1 hs).elim (fun he => .inl (.inr he)) fun hs => .inr (.inr hs)
  · rw [isMarked_set hn] at ha
    rw [isMarked_set hn, hpush]
    rcases ha with ha | rfl
    · rcases h.closed a ha b hb with hb | hb
      · exact .inl (.inl hb)
      · exact (List.mem_cons.1 hb).elim (fun he => .inl (.inr he)) fun hb => .inr (.inr hb)
    · exact .inr (.inl hb)

theorem turn (hg : g.WellFormed) (h : g.Spreads start state.1 state.2)
    (hs : followTurn? g state = some state') :
    g.Spreads start state'.1 state'.2 ∧ followTurns g state' + 1 = followTurns g state := by
  obtain ⟨marks, stack⟩ := state
  cases stack with
  | nil => cases hs
  | cons node stack =>
    dsimp only at h
    have hnode : node < g.size := h.stack_lt node (by simp)
    by_cases hm : isMarked marks node = true
    · rw [followTurn?, if_pos hm] at hs
      cases hs
      refine ⟨h.skip hm, ?_⟩
      dsimp only [followTurns]
      rw [List.length_cons]
      omega
    · rw [followTurn?, if_neg hm] at hs
      cases hs
      have hw := unmarked_set (fun n => (g.next n).size) h.size hnode hm
      refine ⟨h.mark hg, ?_⟩
      dsimp only [followTurns]
      rw [← Array.foldl_toList, List.foldl_flip_cons_eq_append', List.length_append,
        List.length_reverse, Array.length_toList, List.length_cons]
      omega

theorem isMarked_iff (h : g.Spreads start marks []) :
    isMarked marks n = true ↔ g.Reaches start n := by
  constructor
  · exact fun hm => h.sound n (.inl hm)
  · intro hr
    induction hr with
    | refl => exact h.start_seen.resolve_right (by simp)
    | tail _ hb ih => exact (h.closed _ ih _ hb).resolve_right (by simp)

end Spreads

theorem not_isMarked_replicate (size n : Nat) :
    ¬ isMarked (Array.replicate size false) n = true := by
  unfold isMarked
  rw [Array.getD_eq_getD_getElem?, Array.getElem?_replicate]
  split <;> simp

theorem spreads_start (hs : start < g.size) :
    g.Spreads start (Array.replicate g.size false) [start] where
  size := Array.size_replicate
  stack_lt n hn := List.mem_singleton.1 hn ▸ hs
  sound n hn := by
    rw [List.mem_singleton.1 (hn.resolve_left (not_isMarked_replicate _ _))]
    exact .refl
  start_seen := .inr (by simp)
  closed a ha := absurd ha (not_isMarked_replicate _ _)

/-- The loop that marks what follows from a node ends by itself, after no more turns than there are
edges, and the one for the start. -/
theorem exists_run_following (hg : g.WellFormed) (hs : start < g.size) :
    ∃ log, Run (followTurn? g) (Array.replicate g.size false, [start]) log (g.following start, []) ∧
      log.length ≤ 1 + g.edgeCount := by
  have hstart : followTurns g (Array.replicate g.size false, [start]) = 1 + g.edgeCount := by
    have hw : unmarked (fun n => (g.next n).size) g.size (Array.replicate g.size false) =
        g.edgeCount := by
      rw [← sum_size_next, unmarked]
      exact Finset.sum_congr rfl fun n _ => if_neg (not_isMarked_replicate _ _)
    rw [followTurns, hw, List.length_singleton]
  obtain ⟨hend, -, log, hrun, hlength⟩ := settles
    (I := fun state => g.Spreads start state.1 state.2) (followTurns g) (spreads_start hs)
    (fun h hn => h.turn hg hn) hstart.le
  have hresult : settle (followTurn? g) (1 + g.edgeCount)
      (Array.replicate g.size false, [start]) = (g.following start, []) :=
    Prod.ext (markFollowing_eq g _ _ _).symm (followTurn?_eq_none_iff.1 hend)
  rw [hresult] at hrun
  exact ⟨log, hrun, hlength.trans hstart.le⟩

theorem spreads_following (hg : g.WellFormed) (hs : start < g.size) :
    g.Spreads start (g.following start) [] := by
  obtain ⟨log, hrun, -⟩ := exists_run_following hg hs
  exact hrun.invariant (I := fun state => g.Spreads start state.1 state.2) (spreads_start hs)
    fun h hn => (h.turn hg hn).1

/-- The marks are those of a search for the nodes that lead to a goal; those on the stack have
predecessors that it still has to look at. -/
structure Gathers (g : Graph) (goal : Nat → Prop) (marks : Array Bool) (stack : List Nat) :
    Prop where
  size : marks.size = g.size
  stack_marked : ∀ n ∈ stack, isMarked marks n = true
  sound : ∀ n, isMarked marks n = true → ∃ r, goal r ∧ g.Reaches n r
  goal_marked : ∀ r, goal r → isMarked marks r = true
  closed : ∀ b, isMarked marks b = true → b ∉ stack → ∀ a ∈ g.previous b, isMarked marks a = true

/-- What looking at some nodes adds to the marks and to the stack. -/
structure Discovered (nodes : List Nat) (old new : Array Bool × List Nat) : Prop where
  size : new.1.size = old.1.size
  marked : ∀ n, isMarked new.1 n = true ↔ isMarked old.1 n = true ∨ n ∈ nodes
  stacked : ∀ n, n ∈ new.2 ↔ n ∈ old.2 ∨ (n ∈ nodes ∧ ¬ isMarked old.1 n = true)
  weight : new.2.length + unmarked (fun _ => 1) new.1.size new.1 =
    old.2.length + unmarked (fun _ => 1) old.1.size old.1

theorem discovered_discover {state : Array Bool × List Nat} (hn : node < state.1.size) :
    Discovered [node] state (discover state node) := by
  unfold discover
  split
  · rename_i hm
    refine ⟨rfl, fun n => ?_, fun n => ?_, rfl⟩
    · rw [List.mem_singleton]
      exact ⟨.inl, fun h => h.elim id fun he => he ▸ hm⟩
    · rw [List.mem_singleton]
      exact ⟨.inl, fun h => h.elim id fun he => absurd (he.1 ▸ hm) he.2⟩
  · rename_i hm
    refine ⟨Array.size_setIfInBounds, fun n => ?_, fun n => ?_, ?_⟩
    · rw [isMarked_set hn, List.mem_singleton]
    · rw [List.mem_singleton, List.mem_cons]
      constructor
      · intro h
        rcases h with rfl | h
        · exact .inr ⟨rfl, hm⟩
        · exact .inl h
      · intro h
        rcases h with h | ⟨rfl, -⟩
        · exact .inr h
        · exact .inl rfl
    · have hw := unmarked_set (fun _ => 1) rfl hn hm
      dsimp only
      rw [List.length_cons, Array.size_setIfInBounds]
      omega

theorem discovered_foldl (nodes : List Nat) : ∀ {state : Array Bool × List Nat},
    (∀ n ∈ nodes, n < state.1.size) → Discovered nodes state (nodes.foldl discover state) := by
  induction nodes with
  | nil =>
    intro state _
    exact ⟨rfl, by simp, by simp, rfl⟩
  | cons node rest ih =>
    intro state hlt
    rw [List.forall_mem_cons] at hlt
    have hfirst := discovered_discover hlt.1
    have hrest := @ih (discover state node) (by rw [hfirst.size]; exact hlt.2)
    refine ⟨hrest.size.trans hfirst.size, fun n => ?_, fun n => ?_,
      hrest.weight.trans hfirst.weight⟩
    · rw [List.foldl_cons, hrest.marked, hfirst.marked, List.mem_singleton, List.mem_cons, or_assoc]
    · rw [List.foldl_cons, hrest.stacked, hfirst.stacked, hfirst.marked, List.mem_singleton,
        List.mem_cons]
      by_cases hm : isMarked state.1 n = true
      · simp [hm]
      · by_cases he : n = node <;> simp [hm, he]

/-- One turn takes a node off the stack. Those that it needs and that have no mark get one and are
put on the stack. -/
def needTurn? (g : Graph) : Array Bool × List Nat → Option (Array Bool × List Nat)
  | (_, []) => none
  | (marks, node :: stack) => some ((g.previous node).foldl discover (marks, stack))

theorem markNeeded_eq (g : Graph) (fuel : Nat) (marks : Array Bool) (stack : List Nat) :
    g.markNeeded fuel marks stack = (settle (needTurn? g) fuel (marks, stack)).1 := by
  induction fuel generalizing marks stack with
  | zero => rfl
  | succ fuel ih =>
    cases stack with
    | nil => rfl
    | cons node stack => exact ih _ _

theorem needTurn?_eq_none_iff : needTurn? g state = none ↔ state.2 = [] := by
  obtain ⟨marks, stack⟩ := state
  cases stack <;> simp [needTurn?]

/-- A bound on the turns that are left: one for every node on the stack, and one for every node
without a mark. -/
def needTurns (state : Array Bool × List Nat) : Nat :=
  state.2.length + unmarked (fun _ => 1) state.1.size state.1

namespace Gathers

variable {goal : Nat → Prop}

/-- A node of the stack is done when all its predecessors have been looked at. -/
theorem discover (hg : g.WellFormed) (h : g.Gathers goal marks (node :: stack))
    {state : Array Bool × List Nat}
    (hd : Discovered (g.previous node).toList (marks, stack) state) :
    g.Gathers goal state.1 state.2 where
  size := hd.size.trans h.size
  stack_marked n hn := by
    rw [hd.marked]
    rcases (hd.stacked n).1 hn with hn | hn
    · exact .inl (h.stack_marked n (List.mem_cons_of_mem _ hn))
    · exact .inr hn.1
  sound n hn := by
    rcases (hd.marked n).1 hn with hn | hn
    · exact h.sound n hn
    · obtain ⟨r, hr, hp⟩ := h.sound node (h.stack_marked node (by simp))
      rw [Array.mem_toList_iff, hg.mem_previous] at hn
      exact ⟨r, hr, hp.head hn⟩
  goal_marked r hr := (hd.marked r).2 (.inl (h.goal_marked r hr))
  closed b hb hs a ha := by
    rw [hd.stacked, not_or, not_and_not_right] at hs
    rw [hd.marked]
    have hm : isMarked marks b = true := ((hd.marked b).1 hb).elim id hs.2
    by_cases he : b = node
    · exact .inr (by rwa [he, ← Array.mem_toList_iff] at ha)
    · exact .inl (h.closed b hm (by simp [he, hs.1]) a ha)

theorem turn (hg : g.WellFormed) (h : g.Gathers goal state.1 state.2)
    (hs : needTurn? g state = some state') :
    g.Gathers goal state'.1 state'.2 ∧ needTurns state' + 1 = needTurns state := by
  obtain ⟨marks, stack⟩ := state
  cases stack with
  | nil => cases hs
  | cons node stack =>
    have hlt : ∀ n ∈ (g.previous node).toList, n < marks.size := fun n hn => by
      rw [Array.mem_toList_iff, hg.mem_previous] at hn
      exact h.size ▸ lt_of_mem_next hn
    have hd := @discovered_foldl _ (marks, stack) hlt
    rw [needTurn?, ← Array.foldl_toList] at hs
    cases hs
    have hweight := hd.weight
    refine ⟨h.discover hg hd, ?_⟩
    simp only [needTurns, List.length_cons] at hweight ⊢
    omega

theorem isMarked_iff (hg : g.WellFormed) (h : g.Gathers goal marks []) :
    isMarked marks n = true ↔ ∃ r, goal r ∧ g.Reaches n r := by
  constructor
  · exact h.sound n
  · intro h
    obtain ⟨r, hr, hp⟩ := h
    induction hp using Relation.ReflTransGen.head_induction_on with
    | refl => exact h.goal_marked r hr
    | head hab _ ih => exact h.closed _ ih (by simp) _ (hg.mem_previous.2 hab)

end Gathers

theorem length_filter_isMarked (marks : Array Bool) (size : Nat) :
    ((List.range size).filter (isMarked marks)).length + unmarked (fun _ => 1) size marks =
      size := by
  rw [unmarked]
  induction size with
  | zero => rfl
  | succ size ih =>
    rw [List.range_succ, List.filter_append, List.length_append, Finset.sum_range_succ]
    by_cases hm : isMarked marks size = true
    · simp only [List.filter_cons, List.filter_nil, hm, if_true, List.length_singleton]
      omega
    · simp only [List.filter_cons, List.filter_nil, hm, Bool.false_eq_true, if_false,
        List.length_nil]
      omega

/-- The nodes that follow from a start node can be taken in any order. -/
theorem gathers_start (hg : g.WellFormed) (hs : start < g.size)
    (hstack : ∀ n, n ∈ stack ↔ isMarked (g.following start) n = true) :
    g.Gathers (g.Reaches start) (g.following start) stack where
  size := (spreads_following hg hs).size
  stack_marked n hn := (hstack n).1 hn
  sound n hn := ⟨n, (spreads_following hg hs).isMarked_iff.1 hn, .refl⟩
  goal_marked _ hr := (spreads_following hg hs).isMarked_iff.2 hr
  closed b hb hno _ _ := absurd ((hstack b).2 hb) hno

theorem mem_filter_following (hg : g.WellFormed) (hs : start < g.size) (n : Nat) :
    n ∈ (List.range g.size).filter (isMarked (g.following start)) ↔
      isMarked (g.following start) n = true := by
  have hlt : isMarked (g.following start) n = true → n < g.size := fun hm =>
    (spreads_following hg hs).size ▸ lt_size_of_isMarked hm
  rw [List.mem_filter, List.mem_range]
  exact ⟨And.right, fun hm => ⟨hlt hm, hm⟩⟩

theorem needTurns_start (hg : g.WellFormed) (hs : start < g.size) (hd : stack.Nodup)
    (hstack : ∀ n, n ∈ stack ↔ isMarked (g.following start) n = true) :
    needTurns (g.following start, stack) = g.size := by
  have hperm : stack.Perm ((List.range g.size).filter (isMarked (g.following start))) := by
    refine (List.perm_ext_iff_of_nodup hd (List.nodup_range.filter _)).2 fun n => ?_
    rw [hstack, mem_filter_following hg hs]
  rw [needTurns, hperm.length_eq, (spreads_following hg hs).size, length_filter_isMarked]

/-- With a turn for every node the search comes to its end. -/
theorem gathers_settle (hg : g.WellFormed) (hs : start < g.size) (hd : stack.Nodup)
    (hstack : ∀ n, n ∈ stack ↔ isMarked (g.following start) n = true) :
    ∃ marks log, settle (needTurn? g) g.size (g.following start, stack) = (marks, []) ∧
      g.Gathers (g.Reaches start) marks [] ∧
      Run (needTurn? g) (g.following start, stack) log (marks, []) ∧ log.length ≤ g.size := by
  have hstart := needTurns_start hg hs hd hstack
  obtain ⟨hend, hkept, log, hrun, hlength⟩ :=
    settles (I := fun state => g.Gathers (g.Reaches start) state.1 state.2) needTurns
      (gathers_start hg hs hstack) (fun h hn => h.turn hg hn) hstart.le
  have hempty := needTurn?_eq_none_iff.1 hend
  have hresult : settle (needTurn? g) g.size (g.following start, stack) = (_, []) :=
    Prod.ext rfl hempty
  rw [hresult] at hkept hrun
  exact ⟨_, log, hresult, hkept, hrun, hlength.trans hstart.le⟩

theorem gathers_usedFrom (hg : g.WellFormed) (hs : start < g.size) :
    g.Gathers (g.Reaches start) (g.usedFrom start) [] := by
  obtain ⟨marks, -, hsettle, hkept, -⟩ :=
    gathers_settle hg hs (List.nodup_range.filter _) (mem_filter_following hg hs)
  rw [usedFrom, markNeeded_eq, hsettle]
  exact hkept

/-- The start node makes use of the nodes that lead to what it leads to. -/
theorem isMarked_usedFrom (hg : g.WellFormed) (hs : start < g.size) :
    isMarked (g.usedFrom start) n = true ↔ ∃ r, g.Reaches start r ∧ g.Reaches n r :=
  (gathers_usedFrom hg hs).isMarked_iff hg

theorem eq_of_isMarked_iff {marks marks' : Array Bool} (hsize : marks.size = marks'.size)
    (h : ∀ n, isMarked marks n = true ↔ isMarked marks' n = true) : marks = marks' := by
  refine Array.ext hsize fun i hi hi' => ?_
  have hmarked := h i
  simp only [isMarked, Array.getD_eq_getD_getElem?, Array.getElem?_eq_getElem hi,
    Array.getElem?_eq_getElem hi', Option.getD_some] at hmarked
  exact Bool.eq_iff_iff.2 hmarked

/-- The loop that marks what is needed ends by itself, after no more turns than there are nodes, in
whatever order it gets the nodes that it starts from. -/
theorem exists_run_usedFrom (hg : g.WellFormed) (hs : start < g.size) (hd : stack.Nodup)
    (hstack : ∀ n, n ∈ stack ↔ isMarked (g.following start) n = true) :
    ∃ log, Run (needTurn? g) (g.following start, stack) log (g.usedFrom start, []) ∧
      log.length ≤ g.size := by
  obtain ⟨marks, log, -, hkept, hrun, hlength⟩ := gathers_settle hg hs hd hstack
  have hused := gathers_usedFrom hg hs
  have hmarks : marks = g.usedFrom start :=
    eq_of_isMarked_iff (hkept.size.trans hused.size.symm) fun n =>
      (hkept.isMarked_iff hg).trans (hused.isMarked_iff hg).symm
  exact ⟨log, hmarks ▸ hrun, hlength⟩

theorem WellFormed.links_of_reaches (hg : g.WellFormed) {i j : Nat} (h : g.Reaches i j) :
    Relation.ReflTransGen g.Links (g.table.name i) (g.table.name j) :=
  h.lift g.table.name fun _ _ => hg.links_name

theorem exists_reaches_of_links {a b : String} {i : Nat} (ha : g.table.number? a = some i)
    (h : Relation.ReflTransGen g.Links a b) :
    ∃ j, g.table.number? b = some j ∧ g.Reaches i j := by
  induction h with
  | refl => exact ⟨i, ha, .refl⟩
  | tail _ hbc ih =>
    obtain ⟨j, hb, hj⟩ := ih
    obtain ⟨k, l, hb', hc, hl⟩ := hbc
    rw [hb] at hb'
    cases hb'
    exact ⟨l, hc, hj.tail hl⟩

/-- The same by the names of the nodes. -/
theorem isMarked_usedFrom_number? (hg : g.WellFormed) {a b : String} {i j : Nat}
    (ha : g.table.number? a = some i) (hb : g.table.number? b = some j) :
    isMarked (g.usedFrom i) j = true ↔
      ∃ r, Relation.ReflTransGen g.Links a r ∧ Relation.ReflTransGen g.Links b r := by
  rw [isMarked_usedFrom hg (hg.table_size ▸ hg.consistent.lt_size ha)]
  constructor
  · intro h
    obtain ⟨r, hi, hj⟩ := h
    have hir := hg.links_of_reaches hi
    have hjr := hg.links_of_reaches hj
    rw [hg.consistent.name_number? ha] at hir
    rw [hg.consistent.name_number? hb] at hjr
    exact ⟨_, hir, hjr⟩
  · intro h
    obtain ⟨r, har, hbr⟩ := h
    obtain ⟨k, hk, hik⟩ := exists_reaches_of_links ha har
    obtain ⟨l, hl, hjl⟩ := exists_reaches_of_links hb hbr
    rw [hk] at hl
    cases hl
    exact ⟨k, hik, hjl⟩

end AgentSpec.Graph
