import AgentSpec.Proofs.Rule.Emission

/-! Findings without those of one severity. -/
namespace AgentSpec

/-- No finding has the severity. -/
def Lacks (s : Severity) (findings : List Finding) : Prop := ∀ f ∈ findings, f.severity ≠ s

namespace Lacks

variable {α : Type} {s : Severity} {fs gs : List Finding}

theorem nil_iff : Lacks s [] ↔ True := by simp [Lacks]

theorem append_iff : Lacks s (fs ++ gs) ↔ Lacks s fs ∧ Lacks s gs := List.forall_mem_append

theorem singleton_iff {f : Finding} : Lacks s [f] ↔ f.severity ≠ s := by simp [Lacks]

theorem flatMap_iff {l : List α} {f : α → List Finding} :
    Lacks s (l.flatMap f) ↔ ∀ a ∈ l, Lacks s (f a) := List.forall_mem_flatMap

theorem map_iff {l : List α} {f : α → Finding} :
    Lacks s (l.map f) ↔ ∀ a ∈ l, (f a).severity ≠ s := List.forall_mem_map

theorem filterMap_iff {l : List α} {f : α → Option Finding} :
    Lacks s (l.filterMap f) ↔ ∀ a ∈ l, ∀ finding ∈ f a, finding.severity ≠ s := by
  constructor
  · intro h a ha finding hf
    exact h finding (List.mem_filterMap.2 ⟨a, ha, hf⟩)
  · intro h finding hf
    obtain ⟨a, ha, hf⟩ := List.mem_filterMap.1 hf
    exact h a ha finding hf

theorem filterMap_unless_iff {l : List α} {p : α → Bool} {f : α → Finding} :
    Lacks s (l.filterMap fun a => if p a then none else some (f a)) ↔
      ∀ a ∈ l, (f a).severity = s → p a = true := by
  rw [filterMap_iff]
  refine forall₂_congr fun a _ => ?_
  by_cases h : p a = true <;> simp [h]

theorem ite_iff {p : Prop} [Decidable p] :
    Lacks s (if p then fs else gs) ↔ (p → Lacks s fs) ∧ (¬ p → Lacks s gs) := by
  by_cases h : p <;> simp [h]

end Lacks

theorem forall_mem_zipIdx {α : Type} {l : List α} {P : α → Prop} :
    (∀ p ∈ l.zipIdx, P p.1) ↔ ∀ a ∈ l, P a := by
  constructor
  · intro h a ha
    obtain ⟨i, hi⟩ := List.getElem?_of_mem ha
    exact h (a, i) (List.mem_zipIdx_iff_getElem?.2 hi)
  · intro h p hp
    exact h p.1 (List.mem_of_getElem? (List.mem_zipIdx_iff_getElem?.1 hp))

theorem Verdict.isUsable_iff {v : Verdict} {strict : Bool} :
    v.isUsable strict = true ↔
      Lacks .error v.findings ∧ (strict = true → Lacks .warning v.findings) := by
  cases strict <;> simp [isUsable, isValid, hasWarnings, Lacks]

end AgentSpec
