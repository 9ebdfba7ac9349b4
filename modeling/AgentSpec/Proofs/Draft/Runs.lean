import AgentSpec.Proofs.Draft.Finish
import AgentSpec.Proofs.Draft.Slots

/-!
The slots of every kind of definition, with the changes that write to them, and what runs of
changes lead to.
-/
namespace AgentSpec

open Draft

namespace Criteria

def slots : List (Slot CriteriaEdit CriteriaDraft Criteria) := [
  .required (fun | .success condition => some condition | _ => none) (·.success) (·.success),
  .required (fun | .failure condition => some condition | _ => none) (·.failure) (·.failure)]

def staging : Staging CriteriaEdit CriteriaDraft Criteria :=
  ⟨{}, CriteriaDraft.edit, CriteriaDraft.finish, slots⟩

theorem exists_finish_iff {draft : CriteriaDraft} :
    (∃ criteria, draft.finish = .ok criteria) ↔ draft.success.isSome ∧ draft.failure.isSome := by
  constructor
  · rintro ⟨criteria, h⟩
    obtain ⟨hsuccess, hfailure⟩ := CriteriaDraft.finish_eq_ok_iff.1 h
    simp [hsuccess, hfailure]
  · intro ⟨hsuccess, hfailure⟩
    exact ⟨⟨draft.success.get hsuccess, draft.failure.get hfailure⟩,
      CriteriaDraft.finish_eq_ok_iff.2 (by simp)⟩

theorem staging_lawful : staging.Lawful where
  blank := by simp [staging, slots, Slot.required, Slot.optional]
  edit := by
    simp only [staging, slots, List.forall_mem_cons]
    -- A change of the other condition leaves this one as it was.
    refine ⟨Slot.follows_optional ?_, Slot.follows_optional ?_, by simp⟩ <;>
      intro draft change <;> cases change <;> rfl
  congr draft other h := by
    obtain ⟨hsuccess, hfailure⟩ :
        draft.success = other.success ∧ draft.failure = other.failure := by
      simpa [staging, slots, Slot.required, Slot.optional] using h
    simp [staging, CriteriaDraft.finish, hsuccess, hfailure]
  finish draft criteria h := by
    have hparts := CriteriaDraft.finish_eq_ok_iff.1 h
    simp [staging, slots, Slot.required, Slot.optional, hparts]
  finishes draft changes h := by
    simp only [staging, slots, List.forall_mem_cons] at h
    obtain ⟨hsuccess, hfailure, -⟩ := h
    simp only [Staging.Supplied, staging, slots, List.forall_mem_cons]
    rw [exists_finish_iff, Slot.supplied_required_iff hsuccess, Slot.supplied_required_iff hfailure]
    simp
  ext criteria other h := by
    obtain ⟨_, _⟩ := criteria
    obtain ⟨_, _⟩ := other
    simpa [staging, slots, Slot.required, Slot.optional] using h

end Criteria

namespace NodeEdit

/-- The kind that a change gives to a node. What a node uses or runs settles its kind, too. -/
def kind? : NodeEdit → Option NodeKind
  | .kind given => some given
  | .usesModule _ => some .module
  | .usesTool _ => some .tool
  | .runsWorkflow _ => some .subworkflow
  | _ => none

/-- The name that a change makes a node refer to. -/
def reference? : NodeEdit → Option String
  | .reference target | .usesModule target | .usesTool target | .runsWorkflow target => some target
  | _ => none

end NodeEdit

namespace Node

/-- The last change that gives a kind to the node does not make it a task. -/
def LeavesTask (changes : List NodeEdit) : Prop :=
  ∃ kind, (changes.filterMap NodeEdit.kind?).getLast? = some kind ∧ kind ≠ .task

def slots : List (Slot NodeEdit NodeDraft Node) := [
  .required (fun | .name text => some text | _ => none) (·.name) (·.name),
  .required (fun | .goal text => some text | _ => none) (·.goal) (·.goal),
  .optional (fun | .description text => some text | _ => none) (·.description) (·.description),
  .defaulted .task NodeEdit.kind? (·.kind) (·.kind),
  .optional NodeEdit.reference? (·.reference) (·.reference) LeavesTask,
  .list (fun | .dependsOn node => some [node] | _ => none) (·.dependsOn) (·.dependsOn),
  .list (fun | .inputs names => some names | _ => none) (·.inputs) (·.inputs),
  .list (fun | .outputs names => some names | _ => none) (·.outputs) (·.outputs)]

def staging : Staging NodeEdit NodeDraft Node := ⟨{}, NodeDraft.edit, NodeDraft.finish, slots⟩

theorem exists_finish_iff {draft : NodeDraft} :
    (∃ node, draft.finish = .ok node) ↔ draft.name.isSome ∧ draft.goal.isSome ∧
      (draft.kind.requiresReference → draft.reference.isSome) := by
  constructor
  · rintro ⟨node, h⟩
    obtain ⟨hcomplete, rfl⟩ := NodeDraft.finish_eq_ok_iff.1 h
    exact ⟨rfl, rfl, hcomplete⟩
  · intro ⟨hname, hgoal, hreference⟩
    exact ⟨⟨draft.name.get hname, draft.goal.get hgoal, draft.description, draft.kind,
      draft.reference, draft.dependsOn, draft.inputs, draft.outputs⟩,
      NodeDraft.finish_eq_ok_iff.2 ⟨hreference, by simp⟩⟩

/-- A node asks for a reference if it is not left as a task. -/
theorem requiresReference_iff_leavesTask {changes : List NodeEdit} {draft : NodeDraft}
    (h : draft.kind = (changes.filterMap NodeEdit.kind?).getLast?.getD .task) :
    draft.kind.requiresReference ↔ LeavesTask changes := by
  rw [h, LeavesTask]
  cases (changes.filterMap NodeEdit.kind?).getLast? with
  | none => simp [NodeKind.requiresReference]
  | some kind => cases kind <;> simp [NodeKind.requiresReference]

theorem staging_lawful : staging.Lawful where
  blank := by simp [staging, slots, Slot.required, Slot.optional, Slot.defaulted, Slot.list]
  edit := by
    simp only [staging, slots, List.forall_mem_cons]
    refine ⟨Slot.follows_optional ?_, Slot.follows_optional ?_, Slot.follows_optional ?_,
      Slot.follows_defaulted ?_, Slot.follows_optional ?_, Slot.follows_list ?_,
      Slot.follows_list ?_, Slot.follows_list ?_, by simp⟩ <;>
      intro draft change <;> cases change <;> rfl
  congr draft other h := by
    have hsame : draft = other := by
      obtain ⟨_, _, _, _, _, _, _, _⟩ := draft
      obtain ⟨_, _, _, _, _, _, _, _⟩ := other
      simpa [staging, slots, Slot.required, Slot.optional, Slot.defaulted, Slot.list] using h
    rw [hsame]
  finish draft node h := by
    obtain ⟨-, rfl⟩ := NodeDraft.finish_eq_ok_iff.1 h
    simp [staging, slots, Slot.required, Slot.optional, Slot.defaulted, Slot.list]
  finishes draft changes h := by
    simp only [staging, slots, List.forall_mem_cons] at h
    obtain ⟨hname, hgoal, -, hkind, hreference, -⟩ := h
    simp only [Staging.Supplied, staging, slots, List.forall_mem_cons]
    -- The reference is the only slot whose need depends on what was written to another one.
    rw [exists_finish_iff, Slot.supplied_required_iff hname, Slot.supplied_required_iff hgoal,
      Slot.supplied_optional_iff hreference, requiresReference_iff_leavesTask hkind]
    simp [Slot.supplied_optional, Slot.supplied_defaulted, Slot.supplied_list]
  ext node other h := by
    obtain ⟨_, _, _, _, _, _, _, _⟩ := node
    obtain ⟨_, _, _, _, _, _, _, _⟩ := other
    simpa [staging, slots, Slot.required, Slot.optional, Slot.defaulted, Slot.list] using h

end Node

namespace Workflow

def slots : List (Slot WorkflowEdit WorkflowDraft Workflow) := [
  .required (fun | .name text => some text | _ => none) (·.name) (·.name),
  .defaulted "" (fun | .description text => some text | _ => none) (·.description.getD "")
    (·.description),
  .required (fun | .entryNode node => some node | _ => none) (·.entryNode) (·.entryNode),
  .list (fun | .addNode node => some [node] | _ => none) (·.nodes) (·.nodes)]

def staging : Staging WorkflowEdit WorkflowDraft Workflow :=
  ⟨{}, WorkflowDraft.edit, WorkflowDraft.finish, slots⟩

theorem exists_finish_iff {draft : WorkflowDraft} :
    (∃ w, draft.finish = .ok w) ↔ draft.name.isSome ∧ draft.entryNode.isSome := by
  constructor
  · rintro ⟨w, h⟩
    obtain ⟨hname, -, hentry, -⟩ := WorkflowDraft.finish_eq_ok_iff.1 h
    simp [hname, hentry]
  · intro ⟨hname, hentry⟩
    exact ⟨⟨draft.name.get hname, draft.description.getD "", draft.entryNode.get hentry,
      draft.nodes⟩, WorkflowDraft.finish_eq_ok_iff.2 (by simp)⟩

theorem staging_lawful : staging.Lawful where
  blank := by simp [staging, slots, Slot.required, Slot.optional, Slot.defaulted, Slot.list]
  edit := by
    simp only [staging, slots, List.forall_mem_cons]
    refine ⟨Slot.follows_optional ?_, Slot.follows_defaulted ?_, Slot.follows_optional ?_,
      Slot.follows_list ?_, by simp⟩ <;>
      intro draft change <;> cases change <;> rfl
  congr draft other h := by
    obtain ⟨hname, hdescription, hentry, hnodes⟩ : draft.name = other.name ∧
        draft.description.getD "" = other.description.getD "" ∧
        draft.entryNode = other.entryNode ∧ draft.nodes = other.nodes := by
      simpa [staging, slots, Slot.required, Slot.optional, Slot.defaulted, Slot.list] using h
    simp [staging, WorkflowDraft.finish, hname, hdescription, hentry, hnodes]
  finish draft w h := by
    obtain ⟨hname, hdescription, hentry, hnodes⟩ := WorkflowDraft.finish_eq_ok_iff.1 h
    simp [staging, slots, Slot.required, Slot.optional, Slot.defaulted, Slot.list, hname,
      hdescription, hentry, hnodes]
  finishes draft changes h := by
    simp only [staging, slots, List.forall_mem_cons] at h
    obtain ⟨hname, -, hentry, -⟩ := h
    simp only [Staging.Supplied, staging, slots, List.forall_mem_cons]
    rw [exists_finish_iff, Slot.supplied_required_iff hname, Slot.supplied_required_iff hentry]
    simp [Slot.supplied_defaulted, Slot.supplied_list]
  ext w other h := by
    obtain ⟨_, _, _, _⟩ := w
    obtain ⟨_, _, _, _⟩ := other
    simpa [staging, slots, Slot.required, Slot.optional, Slot.defaulted, Slot.list] using h

end Workflow

namespace Capability

def slots : List (Slot CapabilityEdit CapabilityDraft Capability) := [
  .required (fun | .name text => some text | _ => none) (·.name) (·.name),
  .defaulted "" (fun | .description text => some text | _ => none) (·.description.getD "")
    (·.description),
  .optional (fun | .inputSchema schema => some schema | _ => none) (·.inputSchema) (·.inputSchema),
  .optional (fun | .outputSchema schema => some schema | _ => none) (·.outputSchema)
    (·.outputSchema)]

def staging (role : CapabilityRole) : Staging CapabilityEdit CapabilityDraft Capability :=
  ⟨{}, CapabilityDraft.edit, CapabilityDraft.finish role, slots⟩

variable {role : CapabilityRole}

theorem exists_finish_iff {draft : CapabilityDraft} :
    (∃ capability, draft.finish role = .ok capability) ↔ draft.name.isSome := by
  constructor
  · rintro ⟨capability, h⟩
    obtain ⟨hname, -⟩ := CapabilityDraft.finish_eq_ok_iff.1 h
    simp [hname]
  · intro hname
    exact ⟨⟨draft.name.get hname, draft.description.getD "", draft.inputSchema,
      draft.outputSchema⟩, CapabilityDraft.finish_eq_ok_iff.2 (by simp)⟩

theorem staging_lawful : (staging role).Lawful where
  blank := by simp [staging, slots, Slot.required, Slot.optional, Slot.defaulted]
  edit := by
    simp only [staging, slots, List.forall_mem_cons]
    refine ⟨Slot.follows_optional ?_, Slot.follows_defaulted ?_, Slot.follows_optional ?_,
      Slot.follows_optional ?_, by simp⟩ <;>
      intro draft change <;> cases change <;> rfl
  congr draft other h := by
    obtain ⟨hname, hdescription, hinput, houtput⟩ : draft.name = other.name ∧
        draft.description.getD "" = other.description.getD "" ∧
        draft.inputSchema = other.inputSchema ∧ draft.outputSchema = other.outputSchema := by
      simpa [staging, slots, Slot.required, Slot.optional, Slot.defaulted] using h
    simp [staging, CapabilityDraft.finish, hname, hdescription, hinput, houtput]
  finish draft capability h := by
    obtain ⟨hname, hdescription, hinput, houtput⟩ := CapabilityDraft.finish_eq_ok_iff.1 h
    simp [staging, slots, Slot.required, Slot.optional, Slot.defaulted, hname, hdescription,
      hinput, houtput]
  finishes draft changes h := by
    simp only [staging, slots, List.forall_mem_cons] at h
    obtain ⟨hname, -⟩ := h
    simp only [Staging.Supplied, staging, slots, List.forall_mem_cons]
    rw [exists_finish_iff, Slot.supplied_required_iff hname]
    simp [Slot.supplied_defaulted, Slot.supplied_optional]
  ext capability other h := by
    obtain ⟨_, _, _, _⟩ := capability
    obtain ⟨_, _, _, _⟩ := other
    simpa [staging, slots, Slot.required, Slot.optional, Slot.defaulted] using h

end Capability

namespace Prompt

def slots : List (Slot PromptEdit PromptDraft Prompt) := [
  .required (fun | .name text => some text | _ => none) (·.name) (·.name),
  .defaulted "" (fun | .description text => some text | _ => none) (·.description.getD "")
    (·.description),
  .required (fun | .template text => some text | _ => none) (·.template) (·.template),
  .list (fun | .parameters names => some names | _ => none) (·.parameters) (·.parameters)]

def staging : Staging PromptEdit PromptDraft Prompt :=
  ⟨{}, PromptDraft.edit, PromptDraft.finish, slots⟩

theorem exists_finish_iff {draft : PromptDraft} :
    (∃ prompt, draft.finish = .ok prompt) ↔ draft.name.isSome ∧ draft.template.isSome := by
  constructor
  · rintro ⟨prompt, h⟩
    obtain ⟨hname, -, htemplate, -⟩ := PromptDraft.finish_eq_ok_iff.1 h
    simp [hname, htemplate]
  · intro ⟨hname, htemplate⟩
    exact ⟨⟨draft.name.get hname, draft.description.getD "", draft.template.get htemplate,
      draft.parameters⟩, PromptDraft.finish_eq_ok_iff.2 (by simp)⟩

theorem staging_lawful : staging.Lawful where
  blank := by simp [staging, slots, Slot.required, Slot.optional, Slot.defaulted, Slot.list]
  edit := by
    simp only [staging, slots, List.forall_mem_cons]
    refine ⟨Slot.follows_optional ?_, Slot.follows_defaulted ?_, Slot.follows_optional ?_,
      Slot.follows_list ?_, by simp⟩ <;>
      intro draft change <;> cases change <;> rfl
  congr draft other h := by
    obtain ⟨hname, hdescription, htemplate, hparameters⟩ : draft.name = other.name ∧
        draft.description.getD "" = other.description.getD "" ∧
        draft.template = other.template ∧ draft.parameters = other.parameters := by
      simpa [staging, slots, Slot.required, Slot.optional, Slot.defaulted, Slot.list] using h
    simp [staging, PromptDraft.finish, hname, hdescription, htemplate, hparameters]
  finish draft prompt h := by
    obtain ⟨hname, hdescription, htemplate, hparameters⟩ := PromptDraft.finish_eq_ok_iff.1 h
    simp [staging, slots, Slot.required, Slot.optional, Slot.defaulted, Slot.list, hname,
      hdescription, htemplate, hparameters]
  finishes draft changes h := by
    simp only [staging, slots, List.forall_mem_cons] at h
    obtain ⟨hname, -, htemplate, -⟩ := h
    simp only [Staging.Supplied, staging, slots, List.forall_mem_cons]
    rw [exists_finish_iff, Slot.supplied_required_iff hname, Slot.supplied_required_iff htemplate]
    simp [Slot.supplied_defaulted, Slot.supplied_list]
  ext prompt other h := by
    obtain ⟨_, _, _, _⟩ := prompt
    obtain ⟨_, _, _, _⟩ := other
    simpa [staging, slots, Slot.required, Slot.optional, Slot.defaulted, Slot.list] using h

end Prompt

namespace Agent

def slots : List (Slot AgentEdit AgentDraft Agent) := [
  .required (fun | .name text => some text | _ => none) (·.name) (·.name),
  .required (fun | .version text => some text | _ => none) (·.version) (·.version),
  .defaulted "" (fun | .description text => some text | _ => none) (·.description.getD "")
    (·.description),
  .defaulted .atomic (fun | .kind kind => some kind | _ => none) (·.kind) (·.kind),
  .optional (fun | .goal text => some text | _ => none) (·.goal) (·.goal),
  .optional (fun | .criteria criteria => some criteria | _ => none) (·.criteria) (·.criteria),
  .optional (fun | .inputSchema schema => some schema | _ => none) (·.inputSchema) (·.inputSchema),
  .optional (fun | .outputSchema schema => some schema | _ => none) (·.outputSchema)
    (·.outputSchema),
  .list (fun | .addWorkflow w => some [w] | _ => none) (·.workflows) (·.workflows),
  .list (fun | .addModule module => some [module] | _ => none) (·.modules) (·.modules),
  .list (fun | .addPrompt prompt => some [prompt] | _ => none) (·.prompts) (·.prompts),
  .list (fun | .addTool tool => some [tool] | _ => none) (·.tools) (·.tools)]

def staging : Staging AgentEdit AgentDraft Agent := ⟨{}, AgentDraft.edit, AgentDraft.finish, slots⟩

theorem exists_finish_iff {draft : AgentDraft} :
    (∃ agent, draft.finish = .ok agent) ↔ draft.name.isSome ∧ draft.version.isSome := by
  constructor
  · rintro ⟨agent, h⟩
    obtain ⟨-, hdraft⟩ := AgentDraft.finish_eq_ok_iff.1 h
    rw [hdraft]
    exact ⟨rfl, rfl⟩
  · intro ⟨hname, hversion⟩
    exact ⟨⟨draft.name.get hname, draft.version.get hversion, draft.description.getD "", draft.kind,
      draft.goal, draft.criteria, draft.inputSchema, draft.outputSchema, draft.workflows,
      draft.modules, draft.prompts, draft.tools⟩, AgentDraft.finish_eq_ok_iff.2 (by simp)⟩

theorem staging_lawful : staging.Lawful where
  blank := by simp [staging, slots, Slot.required, Slot.optional, Slot.defaulted, Slot.list]
  edit := by
    simp only [staging, slots, List.forall_mem_cons]
    refine ⟨Slot.follows_optional ?_, Slot.follows_optional ?_, Slot.follows_defaulted ?_,
      Slot.follows_defaulted ?_, Slot.follows_optional ?_, Slot.follows_optional ?_,
      Slot.follows_optional ?_, Slot.follows_optional ?_, Slot.follows_list ?_,
      Slot.follows_list ?_, Slot.follows_list ?_, Slot.follows_list ?_, by simp⟩ <;>
      intro draft change <;> cases change <;> rfl
  congr draft other h := by
    simp only [staging, slots, Slot.required, Slot.optional, Slot.defaulted, Slot.list,
      List.forall_mem_cons] at h
    obtain ⟨_, _, description, _, _, _, _, _, _, _, _, _⟩ := draft
    obtain ⟨_, _, otherDescription, _, _, _, _, _, _, _, _, _⟩ := other
    obtain ⟨rfl, rfl, hdescription, rfl, rfl, rfl, rfl, rfl, rfl, rfl, rfl, rfl, -⟩ := h
    have hsame : description.getD "" = otherDescription.getD "" := hdescription
    simp only [staging, AgentDraft.finish, hsame]
  finish draft agent h := by
    obtain ⟨hdescription, hdraft⟩ := AgentDraft.finish_eq_ok_iff.1 h
    rw [hdraft]
    simp [staging, slots, Slot.required, Slot.optional, Slot.defaulted, Slot.list, hdescription]
  finishes draft changes h := by
    simp only [staging, slots, List.forall_mem_cons] at h
    obtain ⟨hname, hversion, -⟩ := h
    simp only [Staging.Supplied, staging, slots, List.forall_mem_cons]
    rw [exists_finish_iff, Slot.supplied_required_iff hname, Slot.supplied_required_iff hversion]
    simp [Slot.supplied_defaulted, Slot.supplied_optional, Slot.supplied_list]
  ext agent other h := by
    obtain ⟨_, _, _, _, _, _, _, _, _, _, _, _⟩ := agent
    obtain ⟨_, _, _, _, _, _, _, _, _, _, _, _⟩ := other
    simpa [staging, slots, Slot.required, Slot.optional, Slot.defaulted, Slot.list] using h

end Agent

/-- Whatever the changes and their order, what they lead to is told by the slots: for agents,
workflows, nodes, modules, tools, prompts, and criteria. -/
theorem Draft.runs_exact :
    Agent.staging.Exact ∧ Workflow.staging.Exact ∧ Node.staging.Exact ∧
      (∀ role, (Capability.staging role).Exact) ∧ Prompt.staging.Exact ∧ Criteria.staging.Exact :=
  ⟨Agent.staging_lawful.exact, Workflow.staging_lawful.exact, Node.staging_lawful.exact,
    fun _ => Capability.staging_lawful.exact, Prompt.staging_lawful.exact,
    Criteria.staging_lawful.exact⟩

/-- The later of two overlapping changes decides the kind, and the reference stays. -/
example :
    Node.staging.run [.goal "Find", .usesTool "search", .inputs ["query"], .kind .module,
      .inputs ["limit"], .name "find"] =
    .ok ⟨"find", "Find", none, .module, some "search", [], ["query", "limit"], []⟩ := rfl

end AgentSpec
