import AgentSpec.Proofs.Identifier
import AgentSpec.Proofs.Rule.Severity
import AgentSpec.Proofs.Version

/-! When names and the version of an agent have no error. -/
namespace AgentSpec

/-- Every name of the agent and its parts is an identifier. -/
structure Agent.HasIdentifiers (agent : Agent) : Prop where
  name : Identifier agent.name
  workflows : ∀ w ∈ agent.workflows, Identifier w.name
  nodes : ∀ w ∈ agent.workflows, ∀ node ∈ w.nodes, Identifier node.name
  modules : ∀ m ∈ agent.modules, Identifier m.name
  prompts : ∀ prompt ∈ agent.prompts, Identifier prompt.name
  tools : ∀ tool ∈ agent.tools, Identifier tool.name

namespace Rule

variable {agent : Agent}

theorem forall_mem_names {P : String → Prop} :
    (∀ named ∈ names agent, P named.name) ↔
      P agent.name ∧ (∀ w ∈ agent.workflows, P w.name ∧ ∀ node ∈ w.nodes, P node.name) ∧
        (∀ m ∈ agent.modules, P m.name) ∧ (∀ prompt ∈ agent.prompts, P prompt.name) ∧
        ∀ tool ∈ agent.tools, P tool.name := by
  unfold names
  simp only [List.cons_append, List.forall_mem_cons, List.forall_mem_append,
    List.forall_mem_flatMap, List.forall_mem_map, and_assoc]
  rw [forall_mem_zipIdx (P := fun m : Capability => P m.name),
    forall_mem_zipIdx (P := fun prompt : Prompt => P prompt.name),
    forall_mem_zipIdx (P := fun tool : Capability => P tool.name)]
  have hn : ∀ w : Workflow, (∀ p ∈ w.nodes.zipIdx, P p.1.name) ↔ ∀ node ∈ w.nodes, P node.name :=
    fun w => forall_mem_zipIdx (P := fun node : Node => P node.name)
  simp only [hn]
  rw [forall_mem_zipIdx (P := fun w : Workflow => P w.name ∧ ∀ node ∈ w.nodes, P node.name)]

theorem naming_error_iff : Lacks .error (namingFindings agent) ↔ agent.HasIdentifiers := by
  have h : Lacks .error (namingFindings agent) ↔
      ∀ named ∈ names agent, Identifier named.name := by
    rw [namingFindings, (emits_checkNames agent).alone_eq]
    unfold nameFinding?
    rw [Lacks.filterMap_unless_iff]
    simp only [isIdentifier_iff, Finding.error, forall_const]
  rw [h, forall_mem_names]
  constructor
  · intro h
    obtain ⟨hn, hw, hm, hp, ht⟩ := h
    exact ⟨hn, fun w h => (hw w h).1, fun w h => (hw w h).2, hm, hp, ht⟩
  · intro h
    obtain ⟨hn, hw, hnodes, hm, hp, ht⟩ := h
    exact ⟨hn, fun w h => ⟨hw w h, hnodes w h⟩, hm, hp, ht⟩

theorem naming_no_warning : Lacks .warning (namingFindings agent) := by
  rw [namingFindings, (emits_checkNames agent).alone_eq]
  exact Lacks.filterMap_unless_iff.2 fun _ _ => nofun

/-- The version is written as versions are. -/
theorem version_error_iff : Lacks .error (versionFindings agent) ↔
    ∃ v : Version, v.Proper ∧ agent.version = v.render := by
  rw [versionFindings, (emits_checkVersion agent).alone_eq]
  cases h : Version.parse agent.version with
  | ok v =>
    obtain ⟨hr, hp⟩ := Version.parse_eq_ok_iff.1 h
    exact iff_of_true (Lacks.nil_iff.2 trivial) ⟨v, hp, hr⟩
  | error e =>
    refine iff_of_false (fun hl => Lacks.singleton_iff.1 hl rfl) ?_
    intro h
    obtain ⟨v, hp, hr⟩ := h
    rw [Version.parse_eq_ok_iff.2 ⟨hr, hp⟩] at h
    cases h

theorem version_no_warning : Lacks .warning (versionFindings agent) := by
  rw [versionFindings, (emits_checkVersion agent).alone_eq]
  split
  · exact Lacks.nil_iff.2 trivial
  · exact Lacks.singleton_iff.2 nofun

end Rule

end AgentSpec
