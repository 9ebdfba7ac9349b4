import AgentSpec.Draft.Agent
import AgentSpec.Draft.Capability
import AgentSpec.Draft.Criteria
import AgentSpec.Draft.Node
import AgentSpec.Draft.Prompt
import AgentSpec.Draft.Workflow

/-! The definitions that drafts can be finished to, and what all of them have in common. -/
namespace AgentSpec

namespace Node

/-- Some changes to a blank draft lead to the node. -/
def Built (node : Node) : Prop :=
  ∃ edits : List NodeEdit, (edits.foldl NodeDraft.edit {}).finish = .ok node

/-- The node has the reference that its kind asks for. -/
def Complete (node : Node) : Prop := node.kind.requiresReference → node.reference.isSome

theorem complete_of_finish {draft : NodeDraft} {node : Node} (h : draft.finish = .ok node) :
    node.Complete := by
  obtain ⟨name, goal, description, kind, reference, dependsOn, inputs, outputs⟩ := draft
  cases name with
  | none => cases h
  | some name =>
    cases goal with
    | none => cases h
    | some goal =>
      cases hr : (kind.requiresReference && reference.isNone) with
      | true => simp [NodeDraft.finish, Draft.require, hr, bind, Except.bind, throw,
          throwThe, MonadExceptOf.throw] at h
      | false =>
        simp only [NodeDraft.finish, Draft.require, hr, bind, Except.bind, pure, Except.pure] at h
        cases h
        intro hk
        simpa [hk] using hr

theorem Built.complete {node : Node} : node.Built → node.Complete
  | ⟨_, h⟩ => complete_of_finish h

end Node

/-- Some changes to a blank draft lead to the criteria. -/
def Criteria.Built (criteria : Criteria) : Prop :=
  ∃ edits : List CriteriaEdit, (edits.foldl CriteriaDraft.edit {}).finish = .ok criteria

/-- Some changes to a blank draft lead to the module or tool. -/
def Capability.Built (role : CapabilityRole) (capability : Capability) : Prop :=
  ∃ edits : List CapabilityEdit, (edits.foldl CapabilityDraft.edit {}).finish role = .ok capability

/-- Some changes to a blank draft lead to the prompt. -/
def Prompt.Built (prompt : Prompt) : Prop :=
  ∃ edits : List PromptEdit, (edits.foldl PromptDraft.edit {}).finish = .ok prompt

/-- What the change adds was built before. -/
def WorkflowEdit.Sound : WorkflowEdit → Prop
  | .addNode node => node.Built
  | .name _ | .description _ | .entryNode _ => True

namespace Workflow

/-- Some changes to a blank draft lead to the workflow. -/
def Built (w : Workflow) : Prop :=
  ∃ edits : List WorkflowEdit, (∀ edit ∈ edits, edit.Sound) ∧
    (edits.foldl WorkflowDraft.edit {}).finish = .ok w

/-- All nodes have the references that their kinds ask for. -/
def Complete (w : Workflow) : Prop := ∀ node ∈ w.nodes, node.Complete

theorem complete_edit {draft : WorkflowDraft} {edit : WorkflowEdit} (he : edit.Sound)
    (h : ∀ node ∈ draft.nodes, node.Complete) :
    ∀ node ∈ (draft.edit edit).nodes, node.Complete := by
  cases edit with
  | addNode node =>
    intro other hm
    rcases List.mem_append.1 hm with hm | hm
    · exact h other hm
    · rw [List.mem_singleton.1 hm]
      exact Node.Built.complete he
  | name | description | entryNode => exact h

theorem complete_edits {edits : List WorkflowEdit} {draft : WorkflowDraft}
    (he : ∀ edit ∈ edits, edit.Sound) (h : ∀ node ∈ draft.nodes, node.Complete) :
    ∀ node ∈ (edits.foldl WorkflowDraft.edit draft).nodes, node.Complete := by
  induction edits generalizing draft with
  | nil => exact h
  | cons edit rest ih =>
    rw [List.forall_mem_cons] at he
    exact ih he.2 (complete_edit he.1 h)

theorem nodes_of_finish {draft : WorkflowDraft} {w : Workflow} (h : draft.finish = .ok w) :
    w.nodes = draft.nodes := by
  obtain ⟨name, description, entryNode, nodes⟩ := draft
  cases name with
  | none => cases h
  | some name =>
    cases entryNode with
    | none => cases h
    | some entryNode =>
      cases h
      rfl

theorem Built.complete {w : Workflow} (h : w.Built) : w.Complete := by
  obtain ⟨edits, he, hf⟩ := h
  unfold Complete
  rw [nodes_of_finish hf]
  exact complete_edits he (by simp)

end Workflow

/-- What the change adds was built before. -/
def AgentEdit.Sound : AgentEdit → Prop
  | .criteria c => c.Built
  | .addWorkflow w => w.Built
  | .addModule m => m.Built .module
  | .addPrompt prompt => prompt.Built
  | .addTool tool => tool.Built .tool
  | .name _ | .version _ | .description _ | .kind _ | .goal _ | .inputSchema _
  | .outputSchema _ => True

namespace Agent

/-- Some changes to a blank draft lead to the agent. -/
def Built (agent : Agent) : Prop :=
  ∃ edits : List AgentEdit, (∀ edit ∈ edits, edit.Sound) ∧
    (edits.foldl AgentDraft.edit {}).finish = .ok agent

/-- All nodes have the references that their kinds ask for. -/
def Complete (agent : Agent) : Prop := ∀ w ∈ agent.workflows, w.Complete

theorem complete_edit {draft : AgentDraft} {edit : AgentEdit} (he : edit.Sound)
    (h : ∀ w ∈ draft.workflows, w.Complete) :
    ∀ w ∈ (draft.edit edit).workflows, w.Complete := by
  cases edit with
  | addWorkflow w =>
    intro other hm
    rcases List.mem_append.1 hm with hm | hm
    · exact h other hm
    · rw [List.mem_singleton.1 hm]
      exact Workflow.Built.complete he
  | _ => exact h

theorem complete_edits {edits : List AgentEdit} {draft : AgentDraft}
    (he : ∀ edit ∈ edits, edit.Sound) (h : ∀ w ∈ draft.workflows, w.Complete) :
    ∀ w ∈ (edits.foldl AgentDraft.edit draft).workflows, w.Complete := by
  induction edits generalizing draft with
  | nil => exact h
  | cons edit rest ih =>
    rw [List.forall_mem_cons] at he
    exact ih he.2 (complete_edit he.1 h)

theorem workflows_of_finish {draft : AgentDraft} {agent : Agent} (h : draft.finish = .ok agent) :
    agent.workflows = draft.workflows := by
  obtain ⟨name, version, description, kind, goal, criteria, inputSchema, outputSchema, workflows,
    modules, prompts, tools⟩ := draft
  cases name with
  | none => cases h
  | some name =>
    cases version with
    | none => cases h
    | some version =>
      cases h
      rfl

theorem Built.complete {agent : Agent} (h : agent.Built) : agent.Complete := by
  obtain ⟨edits, he, hf⟩ := h
  unfold Complete
  rw [workflows_of_finish hf]
  exact complete_edits he (by simp)

end Agent

end AgentSpec
