import AgentSpec.Proofs.Draft.Built
import AgentSpec.Proofs.Except

/-! Which drafts can be finished, and what they are finished to. -/
namespace AgentSpec

namespace Draft

theorem require_eq_ok_iff {value : Option String} {field builder text : String} :
    require value field builder = .ok text ↔ value = some text := by
  cases value <;> simp [require]

end Draft

open Draft

theorem CriteriaDraft.finish_eq_ok_iff {draft : CriteriaDraft} {criteria : Criteria} :
    draft.finish = .ok criteria ↔
      draft.success = some criteria.success ∧ draft.failure = some criteria.failure := by
  obtain ⟨success, failure⟩ := criteria
  simp [finish, bind_eq_ok_iff, require_eq_ok_iff, pure, Except.pure]

/-- A node has everything from its draft, and the reference that its kind asks for. -/
theorem NodeDraft.finish_eq_ok_iff {draft : NodeDraft} {node : Node} :
    draft.finish = .ok node ↔ node.Complete ∧ draft =
      ⟨node.name, node.goal, node.description, node.kind, node.reference, node.dependsOn,
        node.inputs, node.outputs⟩ := by
  obtain ⟨name, goal, description, kind, reference, dependsOn, inputs, outputs⟩ := draft
  have hcomplete : (kind.requiresReference && reference.isNone) = false ↔
      (kind.requiresReference = true → reference.isSome = true) := by
    cases kind.requiresReference <;> cases reference <;> simp
  simp only [finish, bind_eq_ok_iff, require_eq_ok_iff, pure, Except.pure, mk.injEq]
  constructor
  · intro h
    obtain ⟨_, rfl, _, rfl, h⟩ := h
    split at h
    · cases h
    · rename_i hreference
      rw [Bool.not_eq_true] at hreference
      cases h
      exact ⟨hcomplete.1 hreference, rfl, rfl, rfl, rfl, rfl, rfl, rfl, rfl⟩
  · intro h
    obtain ⟨hc, rfl, rfl, rfl, rfl, rfl, rfl, rfl, rfl⟩ := h
    refine ⟨_, rfl, _, rfl, ?_⟩
    rw [hcomplete.2 hc]
    rfl

theorem WorkflowDraft.finish_eq_ok_iff {draft : WorkflowDraft} {w : Workflow} :
    draft.finish = .ok w ↔ draft.name = some w.name ∧ draft.description.getD "" = w.description ∧
      draft.entryNode = some w.entryNode ∧ draft.nodes = w.nodes := by
  obtain ⟨name, description, entryNode, nodes⟩ := w
  simp only [finish, bind_eq_ok_iff, require_eq_ok_iff, pure, Except.pure, Except.ok.injEq,
    Workflow.mk.injEq]
  constructor
  · intro h
    obtain ⟨_, hname, _, hentry, rfl, hdescription, rfl, hnodes⟩ := h
    exact ⟨hname, hdescription, hentry, hnodes⟩
  · intro h
    obtain ⟨hname, hdescription, hentry, hnodes⟩ := h
    exact ⟨_, hname, _, hentry, rfl, hdescription, rfl, hnodes⟩

theorem CapabilityDraft.finish_eq_ok_iff {role : CapabilityRole} {draft : CapabilityDraft}
    {capability : Capability} :
    draft.finish role = .ok capability ↔ draft.name = some capability.name ∧
      draft.description.getD "" = capability.description ∧
      draft.inputSchema = capability.inputSchema ∧
      draft.outputSchema = capability.outputSchema := by
  obtain ⟨name, description, inputSchema, outputSchema⟩ := capability
  simp only [finish, bind_eq_ok_iff, require_eq_ok_iff, pure, Except.pure, Except.ok.injEq,
    Capability.mk.injEq]
  constructor
  · intro h
    obtain ⟨_, hname, rfl, hrest⟩ := h
    exact ⟨hname, hrest⟩
  · intro h
    obtain ⟨hname, hrest⟩ := h
    exact ⟨_, hname, rfl, hrest⟩

theorem PromptDraft.finish_eq_ok_iff {draft : PromptDraft} {prompt : Prompt} :
    draft.finish = .ok prompt ↔ draft.name = some prompt.name ∧
      draft.description.getD "" = prompt.description ∧ draft.template = some prompt.template ∧
      draft.parameters = prompt.parameters := by
  obtain ⟨name, description, template, parameters⟩ := prompt
  simp only [finish, bind_eq_ok_iff, require_eq_ok_iff, pure, Except.pure, Except.ok.injEq,
    Prompt.mk.injEq]
  constructor
  · intro h
    obtain ⟨_, hname, _, htemplate, rfl, hdescription, rfl, hparameters⟩ := h
    exact ⟨hname, hdescription, htemplate, hparameters⟩
  · intro h
    obtain ⟨hname, hdescription, htemplate, hparameters⟩ := h
    exact ⟨_, hname, _, htemplate, rfl, hdescription, rfl, hparameters⟩

/-- An agent has everything from its draft, which needs a name and a version. -/
theorem AgentDraft.finish_eq_ok_iff {draft : AgentDraft} {agent : Agent} :
    draft.finish = .ok agent ↔ draft.description.getD "" = agent.description ∧ draft =
      ⟨agent.name, agent.version, draft.description, agent.kind, agent.goal, agent.criteria,
        agent.inputSchema, agent.outputSchema, agent.workflows, agent.modules, agent.prompts,
        agent.tools⟩ := by
  obtain ⟨name, version, description, kind, goal, criteria, inputSchema, outputSchema, workflows,
    modules, prompts, tools⟩ := draft
  simp only [finish, bind_eq_ok_iff, require_eq_ok_iff, pure, Except.pure, Except.ok.injEq,
    mk.injEq, true_and]
  constructor
  · intro h
    obtain ⟨_, rfl, _, rfl, rfl⟩ := h
    simp
  · intro h
    obtain ⟨hdescription, rfl, rfl, rfl, rfl, rfl, rfl, rfl, rfl, rfl, rfl, rfl⟩ := h
    exact ⟨_, rfl, _, rfl, by rw [hdescription]⟩

end AgentSpec
