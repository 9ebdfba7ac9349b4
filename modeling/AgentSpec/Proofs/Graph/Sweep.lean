import AgentSpec.Proofs.Graph.Cycles
import AgentSpec.Proofs.Loop

/-! The search from all nodes of a graph as a single loop: which states it goes through, and which
edges and nodes it has come to by then. -/
namespace AgentSpec.Graph

namespace Search

variable {g : Graph} {s : Search} {below : Array Frame} {top : Frame} {a b n : Nat}

theorem Taken.mem_next (h : Taken g s a b) : b ∈ g.next a := by
  rcases h with ⟨-, hb⟩ | ⟨frame, -, rfl, k, -, hb⟩
  · exact hb
  · exact mem_next_of_getElem? hb

/-- The edge that the next turn follows; there is none if the turn leaves the last node. -/
def followed? (g : Graph) (s : Search) : Option (Nat × Nat) :=
  s.frames.back?.bind fun frame => (g.next frame.node)[frame.edge]?.map (frame.node, ·)

theorem followed?_of_empty (hf : s.frames = #[]) : s.followed? g = none := by
  simp [followed?, hf]

theorem followed?_of_push (hf : s.frames = below.push top) :
    s.followed? g = (g.next top.node)[top.edge]?.map (top.node, ·) := by
  simp [followed?, hf]

/-- A turn adds the edge that it follows to those followed before. -/
theorem Layout.taken_turn (h : Layout g s) (hf : s.frames = below.push top) :
    Taken g (s.turn g) a b ↔ Taken g s a b ∨ s.followed? g = some (a, b) := by
  have hshown : ∀ {target}, (g.next top.node)[top.edge]? = some target →
      (s.followed? g = some (a, b) ↔ a = top.node ∧ b = target) := fun ht => by
    rw [followed?_of_push hf, ht]
    simp [eq_comm]
  refine turn_cases (motive := fun s' => Taken g s' a b ↔ _) hf (fun hno => ?_)
    (fun target ht _ => ?_) (fun target ht hm => ?_) (fun target ht _ => ?_)
  · rw [h.taken_leave hf hno, followed?_of_push hf, hno]
    simp
  · rw [hshown ht]
    exact taken_advance hf ht
  · have hn : target < s.advance.marks.size := lt_size_of_mark (by simp [hm])
    rw [hshown ht, taken_enter hn hm, taken_advance hf ht]
  · rw [hshown ht, taken_advance hf ht]

theorem Layout.not_taken_of_followed? (h : Layout g s) (hg : g.WellFormed)
    (hs : s.followed? g = some (a, b)) : ¬ Taken g s a b := by
  by_cases he : s.frames = #[]
  · rw [followed?_of_empty he] at hs
    cases hs
  · obtain ⟨below, top, hf⟩ := exists_push_of_ne_empty he
    rw [followed?_of_push hf, Option.map_eq_some_iff] at hs
    obtain ⟨target, ht, hab⟩ := hs
    cases hab
    exact h.not_taken hg hf ht

/-- The node at the end of the path, if the path has grown. -/
def pushed? (s s' : Search) : Option Nat :=
  if s.frames.size < s'.frames.size then s'.frames.back?.map (·.node) else none

/-- What has been visited grows by the node that is put on the path, if there is one, and this node
has not been visited before. -/
structure Enters (s s' : Search) : Prop where
  visited : ∀ {n : Nat}, s'.mark n ≠ .unvisited ↔ s.mark n ≠ .unvisited ∨ pushed? s s' = some n
  unvisited : ∀ {n : Nat}, pushed? s s' = some n → s.mark n = .unvisited

theorem pushed?_of_size_le {s s' : Search} (h : s'.frames.size ≤ s.frames.size) :
    pushed? s s' = none := if_neg (by omega)

theorem enters_of_size_le {s s' : Search} (h : s'.frames.size ≤ s.frames.size)
    (hm : ∀ n, s'.mark n ≠ .unvisited ↔ s.mark n ≠ .unvisited) : Enters s s' := by
  have hnone := pushed?_of_size_le h
  exact ⟨fun {n} => by simp [hnone, hm n], fun {n} hn => by simp [hnone] at hn⟩

theorem enters_enter {s s' : Search} (hsize : s'.frames.size = s.frames.size)
    (hmark : ∀ i, s'.mark i = s.mark i) (hn : s.mark n = .unvisited) :
    Enters s (s'.enter n) := by
  have hpushed : pushed? s (s'.enter n) = some n := by simp [pushed?, enter, hsize]
  have hm := mark_enter (lt_size_of_mark (s := s') (n := n) (by simp [hmark, hn]))
  refine ⟨fun {i} => ?_, fun {i} hi => ?_⟩
  · rw [hm, hpushed, hmark]
    by_cases he : n = i <;> simp [he]
  · rw [hpushed] at hi
    cases hi
    exact hn

theorem size_advance (s : Search) : s.advance.frames.size = s.frames.size := by simp [advance]

theorem Layout.enters_turn (h : Layout g s) (hf : s.frames = below.push top) :
    Enters s (s.turn g) := by
  refine turn_cases (motive := Enters s) hf (fun _ => ?_) (fun target _ _ => ?_)
    (fun target _ hm => ?_) (fun target _ _ => ?_)
  · -- The node that is left was on the path, so that it has been visited before and stays so.
    have htop := h.mark_top hf
    refine enters_of_size_le (by simp [Search.leave]) fun n => ?_
    rw [mark_leave (lt_size_of_mark (by simp [htop]))]
    by_cases he : top.node = n
    · simp [← he, htop]
    · simp [he]
  · exact enters_of_size_le (size_advance s).le fun n => Iff.rfl
  · exact enters_enter (size_advance s) mark_advance hm
  · exact enters_of_size_le (size_advance s).le fun n => Iff.rfl

end Search

/-- A search between two steps, with the nodes from which it has still to be tried. -/
structure Sweep where
  pending : List Nat
  search : Search

namespace Sweep

variable {g : Graph} {w w' : Sweep} {log : List Sweep} {a b n : Nat}

def start (g : Graph) : Sweep := ⟨List.range g.size, .start g⟩

/-- Whether the next step is a turn of the search. -/
def isTurning (w : Sweep) : Bool := !w.search.frames.isEmpty

/-- One step is a turn of the search as long as there is a path. After that the next of the pending
nodes is entered, unless it has been visited. -/
def step? (g : Graph) (w : Sweep) : Option Sweep :=
  if w.isTurning then some { w with search := w.search.turn g }
  else
    match w.pending with
    | [] => none
    | node :: rest =>
      some ⟨rest, if w.search.mark node = .unvisited then w.search.enter node else w.search⟩

/-- The node that the next step puts on the path. -/
def entered? (g : Graph) (w : Sweep) : Option Nat :=
  (w.step? g).bind fun next => Search.pushed? w.search next.search

theorem step?_cases {motive : Sweep → Prop} (h : w.step? g = some w')
    (turn : ∀ below top, w.search.frames = Array.push below top →
      motive ⟨w.pending, w.search.turn g⟩)
    (enter : ∀ node rest, w.search.frames = #[] → w.pending = node :: rest →
      w.search.mark node = .unvisited → motive ⟨rest, w.search.enter node⟩)
    (skip : ∀ node rest, w.search.frames = #[] → w.pending = node :: rest →
      w.search.mark node ≠ .unvisited → motive ⟨rest, w.search⟩) : motive w' := by
  unfold step? at h
  by_cases ht : w.isTurning = true
  · rw [if_pos ht] at h
    obtain ⟨below, top, hf⟩ := Search.exists_push_of_ne_empty (s := w.search)
      (by simpa [isTurning] using ht)
    exact Option.some.inj h ▸ turn below top hf
  · have hf : w.search.frames = #[] := by simpa [isTurning] using ht
    rw [if_neg ht] at h
    cases hp : w.pending with
    | nil => simp [hp] at h
    | cons node rest =>
      rw [hp] at h
      have h := Option.some.inj h
      by_cases hm : w.search.mark node = .unvisited
      · rw [if_pos hm] at h
        exact h ▸ enter node rest hf hp hm
      · rw [if_neg hm] at h
        exact h ▸ skip node rest hf hp hm

theorem isTurning_of_push {below : Array Frame} {top : Frame}
    (hf : w.search.frames = below.push top) : w.isTurning = true := by
  simp [isTurning, hf]

theorem isTurning_of_empty (hf : w.search.frames = #[]) : ¬ w.isTurning = true := by
  simp [isTurning, hf]

theorem step?_eq_none_iff : w.step? g = none ↔ w.search.frames = #[] ∧ w.pending = [] := by
  unfold step?
  by_cases hf : w.search.frames = #[]
  · rw [if_neg (isTurning_of_empty hf)]
    cases w.pending <;> simp [hf]
  · obtain ⟨below, top, hpush⟩ := Search.exists_push_of_ne_empty hf
    rw [if_pos (isTurning_of_push hpush)]
    simp [hf]

theorem invariant_step (hg : g.WellFormed) (h : Search.Invariant g w.search)
    (hs : w.step? g = some w') : Search.Invariant g w'.search :=
  step?_cases (motive := fun w' => Search.Invariant g w'.search) hs (fun _ _ hf => h.turn hg hf)
    (fun _ _ hf _ hm => h.enter hf hm) (fun _ _ _ _ _ => h)

/-- The invariant of the search holds wherever a run has come to. -/
theorem invariant_of_run (hg : g.WellFormed) (h : Run (step? g) (start g) log w) :
    Search.Invariant g w.search :=
  h.invariant (I := fun w => Search.Invariant g w.search) (Search.invariant_start g)
    fun hi hs => invariant_step hg hi hs

theorem taken_step (h : Search.Invariant g w.search) (hs : w.step? g = some w') :
    Search.Taken g w'.search a b ↔
      Search.Taken g w.search a b ∨ w.search.followed? g = some (a, b) := by
  refine step?_cases (motive := fun w' => Search.Taken g w'.search a b ↔ _) hs
    (fun _ _ hf => h.toLayout.taken_turn hf) (fun node rest hf _ hm => ?_)
    (fun node rest hf _ _ => ?_)
  · rw [Search.taken_enter (Search.lt_size_of_mark (by simp [hm])) hm,
      Search.followed?_of_empty hf]
    simp
  · simp [Search.followed?_of_empty hf]

/-- What counts as followed is what the run has followed, each edge once. -/
theorem followed_of_run (hg : g.WellFormed) (h : Run (step? g) (start g) log w) :
    (log.filterMap (·.search.followed? g)).Nodup ∧
      ∀ a b, (a, b) ∈ log.filterMap (·.search.followed? g) ↔ Search.Taken g w.search a b := by
  have honce := h.shown_once (I := fun w => Search.Invariant g w.search)
    (Search.invariant_start g) (fun hi hs => invariant_step hg hi hs) (·.search.followed? g)
    (fun w e => Search.Taken g w.search e.1 e.2)
    (fun e => Search.not_taken_start g e.1 e.2)
    fun hi hs e => ⟨taken_step hi hs, fun he => hi.toLayout.not_taken_of_followed? hg he⟩
  exact ⟨honce.1, fun a b => honce.2 (a, b)⟩

theorem enters_step (h : Search.Invariant g w.search) (hs : w.step? g = some w') :
    Search.Enters w.search w'.search :=
  step?_cases (motive := fun w' => Search.Enters w.search w'.search) hs
    (fun _ _ hf => h.toLayout.enters_turn hf)
    (fun _ _ _ _ hm => Search.enters_enter rfl (fun _ => rfl) hm)
    (fun _ _ _ _ _ => Search.enters_of_size_le le_rfl fun _ => Iff.rfl)

/-- Visited are the nodes of the graph that are on the path or finished. -/
def Visited (g : Graph) (w : Sweep) (n : Nat) : Prop :=
  n < g.size ∧ w.search.mark n ≠ .unvisited

theorem visited_step (h : Search.Invariant g w.search) (hs : w.step? g = some w') (n : Nat) :
    (Visited g w' n ↔ Visited g w n ∨ w.entered? g = some n) ∧
      (w.entered? g = some n → ¬ Visited g w n) := by
  have henters := enters_step h hs
  have hentered : w.entered? g = Search.pushed? w.search w'.search := by
    rw [entered?, hs, Option.bind_some]
  have hlt : Search.pushed? w.search w'.search = some n → n < g.size := fun hn =>
    h.marks_size ▸ Search.lt_size_of_mark (by simp [henters.unvisited hn])
  rw [hentered]
  refine ⟨?_, fun hn hv => hv.2 (henters.unvisited hn)⟩
  rw [Visited, Visited, henters.visited]
  constructor
  · exact fun hv => hv.2.imp (fun hm => ⟨hv.1, hm⟩) id
  · exact fun hv => hv.elim (fun hm => ⟨hm.1, .inl hm.2⟩) fun hn => ⟨hlt hn, .inr hn⟩

/-- The nodes visited are those that the run has put on the path, each of them once. -/
theorem entered_of_run (hg : g.WellFormed) (h : Run (step? g) (start g) log w) :
    (log.filterMap (entered? g)).Nodup ∧
      ∀ n, n ∈ log.filterMap (entered? g) ↔ Visited g w n := by
  refine h.shown_once (I := fun w => Search.Invariant g w.search) (Search.invariant_start g)
    (fun hi hs => invariant_step hg hi hs) (entered? g) (Visited g) (fun n hn => ?_)
    fun hi hs n => visited_step hi hs n
  exact hn.2 (by rw [start, Search.mark_start, if_pos hn.1])

/-- Turns of the search use up what remained, and nothing else does. -/
theorem countP_isTurning (hg : g.WellFormed) (h : Run (step? g) (start g) log w) :
    log.countP isTurning + Search.remaining g w.search = g.size + g.edgeCount := by
  rw [← Search.remaining_start]
  refine h.countP_add (I := fun w => Search.Invariant g w.search) (Search.invariant_start g)
    (fun hi hs => invariant_step hg hi hs) (fun w => Search.remaining g w.search) isTurning
    fun {w w'} hi hs => ?_
  refine step?_cases (motive := fun w' => Search.remaining g w'.search + _ = _) hs
    (fun below top hf => ?_) (fun node rest hf hp hm => ?_) (fun node rest hf hp hm => ?_)
  · rw [if_pos (isTurning_of_push hf)]
    exact hi.toLayout.remaining_turn hg hf
  · have hn : node < w.search.marks.size := Search.lt_size_of_mark (by simp [hm])
    rw [if_neg (isTurning_of_empty hf)]
    exact Search.remaining_enter (hi.marks_size ▸ hn) hi.marks_size hm
  · rw [if_neg (isTurning_of_empty hf), Nat.add_zero]

/-- The turns that the search takes until its path is empty are steps of a run. -/
theorem exists_run_exhaust {init : Sweep} {rest : List Nat} {s : Search} (fuel : Nat)
    (h : Run (step? g) init log ⟨rest, s⟩) :
    ∃ log, Run (step? g) init log ⟨rest, Search.exhaust g fuel s⟩ := by
  induction fuel generalizing s log with
  | zero => exact ⟨log, h⟩
  | succ fuel ih =>
    unfold Search.exhaust
    split
    · exact ⟨log, h⟩
    · rename_i he
      exact ih (h.turn (by simp [step?, isTurning, he]))

theorem exists_run_visit {init : Sweep} {rest : List Nat} {s : Search} {node : Nat}
    (h : Run (step? g) init log ⟨node :: rest, s⟩) (hf : s.frames = #[]) :
    ∃ log, Run (step? g) init log ⟨rest, Search.visit g s node⟩ := by
  have hstep : step? g ⟨node :: rest, s⟩ =
      some ⟨rest, if s.mark node = .unvisited then s.enter node else s⟩ := by
    rw [step?, if_neg (isTurning_of_empty hf)]
  have hnext := h.turn hstep
  unfold Search.visit
  split
  · rename_i hm
    rw [if_pos hm] at hnext
    exact exists_run_exhaust _ hnext
  · rename_i hm
    rw [if_neg hm] at hnext
    exact ⟨_, hnext⟩

theorem exists_run_foldl_visit (hg : g.WellFormed) {init : Sweep} (nodes : List Nat) {s : Search}
    (h : Run (step? g) init log ⟨nodes, s⟩) (hs : Search.Resting g s) :
    ∃ log, Run (step? g) init log ⟨[], nodes.foldl (Search.visit g) s⟩ := by
  induction nodes generalizing s log with
  | nil => exact ⟨log, h⟩
  | cons node rest ih =>
    obtain ⟨log, hrun⟩ := exists_run_visit h hs.frames_eq
    exact ih hrun (hs.visit hg node).1

/-- The run comes to the state in which the search has its result. -/
theorem exists_run_final (hg : g.WellFormed) :
    ∃ log, Run (step? g) (start g) log ⟨[], Search.final g⟩ :=
  exists_run_foldl_visit hg _ .start (Search.resting_start g)

end Sweep

end AgentSpec.Graph
