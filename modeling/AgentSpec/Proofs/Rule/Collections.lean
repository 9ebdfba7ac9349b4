import AgentSpec.Proofs.Graph.Names
import AgentSpec.Proofs.Rule.Severity
import Mathlib.Data.List.Nodup

/-! When collections have no repeated names, and when they are not empty. -/
namespace AgentSpec

/-- No two entities in one list have the same name. -/
structure Agent.HasDistinctNames (agent : Agent) : Prop where
  workflows : (agent.workflows.map (·.name)).Nodup
  modules : (agent.modules.map (·.name)).Nodup
  prompts : (agent.prompts.map (·.name)).Nodup
  tools : (agent.tools.map (·.name)).Nodup
  nodes : ∀ w ∈ agent.workflows, (w.nodes.map (·.name)).Nodup

theorem NameTable.mem_names_ofList {names : List String} {name : String} :
    name ∈ (ofList names).names ↔ name ∈ names := by
  rw [← exists_number?_iff, Array.mem_iff_getElem?]
  exact exists_congr fun i => (consistent_ofList names name i).symm

namespace Rule

variable {agent : Agent} {names : List String}

/-- One more occurrence of a name, if it is in the table. -/
def countName (table : NameTable) (counts : Array Nat) (name : String) : Array Nat :=
  match table.number? name with
  | some number => counts.modify number (· + 1)
  | none => counts

theorem occurrenceCounts_eq (table : NameTable) (names : List String) :
    occurrenceCounts table names =
      names.foldl (countName table) (Array.replicate table.size 0) := rfl

theorem size_countName (table : NameTable) (counts : Array Nat) (name : String) :
    (countName table counts name).size = counts.size := by
  unfold countName
  split
  · exact Array.size_modify
  · rfl

theorem getD_countName {table : NameTable} (h : table.Consistent) {i : Nat} (hi : i < table.size)
    {counts : Array Nat} (hs : counts.size = table.size) (name : String) :
    (countName table counts name).getD i 0 =
      counts.getD i 0 + if name == table.name i then 1 else 0 := by
  unfold countName
  cases hn : table.number? name with
  | none =>
    have hne : ¬ (name == table.name i) = true := by
      rw [beq_iff_eq]
      rintro rfl
      rw [h.number?_name hi] at hn
      cases hn
    rw [if_neg hne, Nat.add_zero]
  | some j =>
    have heq : name = table.name i ↔ j = i := by
      constructor
      · rintro rfl
        rw [h.number?_name hi] at hn
        exact (Option.some.inj hn).symm
      · rintro rfl
        exact (h.name_number? hn).symm
    simp only [Array.getD_eq_getD_getElem?, Array.getElem?_modify, beq_iff_eq, heq]
    split
    · subst j
      have hlt : i < counts.size := by omega
      simp [hlt]
    · rfl

/-- A name of the table is counted as often as it occurs. -/
theorem getD_occurrenceCounts {table : NameTable} (h : table.Consistent) {i : Nat}
    (hi : i < table.size) (names : List String) :
    (occurrenceCounts table names).getD i 0 = names.count (table.name i) := by
  have hfold : ∀ counts : Array Nat, counts.size = table.size →
      (names.foldl (countName table) counts).getD i 0 =
        counts.getD i 0 + names.count (table.name i) := by
    induction names with
    | nil => simp
    | cons name rest ih =>
      intro counts hs
      rw [List.foldl_cons, ih _ (by rw [size_countName, hs]), getD_countName h hi hs,
        List.count_cons]
      omega
  rw [occurrenceCounts_eq, hfold _ Array.size_replicate]
  simp [hi]

/-- The repeated names are those of the table that occur more than once. -/
theorem repeated_eq (names : List String) :
    repeated names = (NameTable.ofList names).names.toList.filter fun name =>
      1 < names.count name := by
  have hc := NameTable.consistent_ofList names
  rw [repeated]
  have hfilter : ∀ p ∈ (NameTable.ofList names).names.toList.zipIdx,
      decide (1 < (occurrenceCounts (NameTable.ofList names) names).getD p.2 0) =
        decide (1 < names.count p.1) := by
    intro h hp
    obtain ⟨name, i⟩ := h
    have hi : (NameTable.ofList names).names[i]? = some name := by
      rw [← Array.getElem?_toList]
      exact List.mem_zipIdx_iff_getElem?.1 hp
    have hn := (hc name i).2 hi
    rw [getD_occurrenceCounts hc (hc.lt_size hn), hc.name_number? hn]
  rw [List.filter_congr hfilter]
  have hmap := List.filter_map (f := Prod.fst) (p := fun name => decide (1 < names.count name))
    (l := (NameTable.ofList names).names.toList.zipIdx)
  rw [List.zipIdx_map_fst] at hmap
  exact hmap.symm

theorem repeated_eq_nil_iff : repeated names = [] ↔ names.Nodup := by
  rw [repeated_eq, List.filter_eq_nil_iff, List.nodup_iff_count_le_one]
  simp only [decide_eq_true_eq, Nat.not_lt, Array.mem_toList_iff, NameTable.mem_names_ofList]
  constructor
  · intro h name
    by_cases hm : name ∈ names
    · exact h name hm
    · rw [List.count_eq_zero_of_not_mem hm]
      exact Nat.zero_le 1
  · exact fun h name _ => h name

theorem repetitions_error_iff {scope : String} {place : Place} :
    Lacks .error (checkRepetitions scope place names).alone ↔ names.Nodup := by
  rw [(emits_checkRepetitions scope place names).alone_eq, Lacks.map_iff, ← repeated_eq_nil_iff,
    List.eq_nil_iff_forall_not_mem]
  exact forall₂_congr fun _ _ => by simp [Finding.error]

theorem repetitions_no_warning {scope : String} {place : Place} :
    Lacks .warning (checkRepetitions scope place names).alone := by
  rw [(emits_checkRepetitions scope place names).alone_eq]
  exact Lacks.map_iff.2 fun _ _ => nofun

theorem uniqueness_error_iff :
    Lacks .error (uniquenessFindings agent) ↔ agent.HasDistinctNames := by
  rw [uniquenessFindings, (emits_checkUniqueness agent).alone_eq]
  simp only [Lacks.append_iff, Lacks.flatMap_iff, repetitions_error_iff]
  rw [forall_mem_zipIdx (P := fun w : Workflow => (w.nodes.map (·.name)).Nodup)]
  constructor
  · intro h
    obtain ⟨⟨⟨⟨hw, hm⟩, hp⟩, ht⟩, hn⟩ := h
    exact ⟨hw, hm, hp, ht, hn⟩
  · intro h
    obtain ⟨hw, hm, hp, ht, hn⟩ := h
    exact ⟨⟨⟨⟨hw, hm⟩, hp⟩, ht⟩, hn⟩

theorem uniqueness_no_warning : Lacks .warning (uniquenessFindings agent) := by
  rw [uniquenessFindings, (emits_checkUniqueness agent).alone_eq]
  simp only [Lacks.append_iff, Lacks.flatMap_iff, repetitions_no_warning, implies_true, and_true]

/-- There is no warning if the agent has workflows and every workflow has nodes. -/
theorem emptiness_warning_iff : Lacks .warning (emptinessFindings agent) ↔
    agent.workflows ≠ [] ∧ ∀ w ∈ agent.workflows, w.nodes ≠ [] := by
  rw [emptinessFindings, (emits_checkEmptiness agent).alone_eq]
  rw [Lacks.append_iff, Lacks.flatMap_iff]
  simp only [Lacks.ite_iff, Lacks.singleton_iff, Lacks.nil_iff, Finding.warning, ne_eq,
    not_true_eq_false, imp_false, implies_true, and_true, List.isEmpty_iff]
  rw [forall_mem_zipIdx (P := fun w : Workflow => ¬ w.nodes = [])]

theorem emptiness_no_error : Lacks .error (emptinessFindings agent) := by
  rw [emptinessFindings, (emits_checkEmptiness agent).alone_eq]
  rw [Lacks.append_iff, Lacks.flatMap_iff]
  simp [Lacks.ite_iff, Lacks.singleton_iff, Lacks.nil_iff, Finding.warning]

end Rule

end AgentSpec
