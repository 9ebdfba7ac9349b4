import Mathlib.Data.List.Nodup

/-! The turns of loops: from which states a loop takes them, what they show, and how many there
are. -/
namespace AgentSpec

variable {State Sight : Type}

/-- From `init` a loop has come to its present state by turns. They began in the states of the log,
one after the other. -/
inductive Run (turn? : State → Option State) (init : State) : List State → State → Prop
  | start : Run turn? init [] init
  | turn {log : List State} {s s' : State} (earlier : Run turn? init log s)
      (next : turn? s = some s') : Run turn? init (log ++ [s]) s'

/-- Turns until none is left, at most `fuel` of them. -/
def settle (turn? : State → Option State) : Nat → State → State
  | 0, s => s
  | fuel + 1, s =>
    match turn? s with
    | none => s
    | some s' => settle turn? fuel s'

/-- The states in which these turns begin. -/
def trail (turn? : State → Option State) : Nat → State → List State
  | 0, _ => []
  | fuel + 1, s =>
    match turn? s with
    | none => []
    | some s' => s :: trail turn? fuel s'

namespace Run

variable {turn? : State → Option State} {init s : State} {log : List State}

theorem settled (hrun : Run turn? init log s) (fuel : Nat) :
    Run turn? init (log ++ trail turn? fuel s) (settle turn? fuel s) := by
  induction fuel generalizing log s with
  | zero => simpa [trail, settle] using hrun
  | succ fuel ih =>
    unfold settle trail
    cases hnext : turn? s with
    | none => simpa using hrun
    | some s' => simpa using ih (hrun.turn hnext)

section

variable {I : State → Prop} (hrun : Run turn? init log s) (hinit : I init)
  (hturn : ∀ {s s'}, I s → turn? s = some s' → I s')
include hrun hinit hturn

theorem invariant : I s := by
  induction hrun with
  | start => exact hinit
  | turn _ hnext ih => exact hturn ih hnext

/-- If every turn puts down what it shows, and shows nothing that has been put down already, then
what has been put down is what the turns have shown, and nothing of it was shown twice. -/
theorem shown_once (shown? : State → Option Sight) (Recorded : State → Sight → Prop)
    (hblank : ∀ x, ¬ Recorded init x)
    (hrecord : ∀ {s s'}, I s → turn? s = some s' →
      ∀ x, (Recorded s' x ↔ Recorded s x ∨ shown? s = some x) ∧
        (shown? s = some x → ¬ Recorded s x)) :
    (log.filterMap shown?).Nodup ∧ ∀ x, x ∈ log.filterMap shown? ↔ Recorded s x := by
  induction hrun with
  | start => exact ⟨List.nodup_nil, fun x => by simpa using hblank x⟩
  | @turn log s s' earlier hnext ih =>
    -- What the last turn shows is not in the record, which is all that was shown before.
    obtain ⟨hnodup, hmem⟩ := ih
    have hs : I s := earlier.invariant hinit hturn
    rw [List.filterMap_append]
    refine ⟨hnodup.append ?_ fun x hx hlast => ?_, fun x => ?_⟩
    · cases h : shown? s <;> simp [h]
    · have hlast : shown? s = some x := by simpa using hlast
      exact (hrecord hs hnext x).2 hlast ((hmem x).1 hx)
    · rw [List.mem_append, hmem, (hrecord hs hnext x).1]
      simp

/-- The turns of one kind are as many as a measure goes down by, if every turn of that kind lowers
it by one and all others keep it. -/
theorem countP_add (measure : State → Nat) (counts : State → Bool)
    (hmeasure : ∀ {s s'}, I s → turn? s = some s' →
      measure s' + (if counts s then 1 else 0) = measure s) :
    log.countP counts + measure s = measure init := by
  induction hrun with
  | start => simp
  | @turn log s s' earlier hnext ih =>
    have hlast := hmeasure (earlier.invariant hinit hturn) hnext
    rw [List.countP_append, List.countP_singleton]
    omega

theorem length_add (measure : State → Nat)
    (hmeasure : ∀ {s s'}, I s → turn? s = some s' → measure s' + 1 = measure s) :
    log.length + measure s = measure init := by
  rw [← List.countP_true]
  exact hrun.countP_add hinit hturn measure _ fun hs hnext => hmeasure hs hnext

end

end Run

/-- A loop whose every turn lowers a measure by one comes to its end. -/
theorem turn?_settle {turn? : State → Option State} {init : State} {I : State → Prop}
    (measure : State → Nat) (hinit : I init)
    (hturn : ∀ {s s'}, I s → turn? s = some s' → I s' ∧ measure s' + 1 = measure s) {fuel : Nat}
    (hfuel : measure init ≤ fuel) : turn? (settle turn? fuel init) = none := by
  induction fuel generalizing init with
  | zero =>
    cases hnext : turn? init with
    | none => exact hnext
    | some s' =>
      have := (hturn hinit hnext).2
      omega
  | succ fuel ih =>
    unfold settle
    cases hnext : turn? init with
    | none => exact hnext
    | some s' =>
      obtain ⟨hs', hless⟩ := hturn hinit hnext
      exact ih hs' (by omega)

/-- The same with what is known of the end, and with the number of the turns. -/
theorem settles {turn? : State → Option State} {init : State} {I : State → Prop}
    (measure : State → Nat) (hinit : I init)
    (hturn : ∀ {s s'}, I s → turn? s = some s' → I s' ∧ measure s' + 1 = measure s) {fuel : Nat}
    (hfuel : measure init ≤ fuel) :
    turn? (settle turn? fuel init) = none ∧ I (settle turn? fuel init) ∧
      ∃ log, Run turn? init log (settle turn? fuel init) ∧ log.length ≤ measure init := by
  have hrun : Run turn? init _ _ := Run.start.settled fuel
  have hkeep : ∀ {s s'}, I s → turn? s = some s' → I s' := fun hs hn => (hturn hs hn).1
  have hlength := hrun.length_add hinit hkeep measure fun hs hn => (hturn hs hn).2
  exact ⟨turn?_settle measure hinit hturn hfuel, hrun.invariant hinit hkeep, _, hrun, by omega⟩

end AgentSpec
