import AgentSpec.Document.Agent

/-! The drafts that documents lead to. What is changed value by value and part by part is in the end
the draft that has the values and the parts of the document. -/
namespace AgentSpec

namespace Draft

variable {α β ε δ : Type} {edit : δ → ε → δ}

/-- Changes for one part after the other may all be made once all parts are defined. -/
theorem addEach_eq {change : β → ε} {define : α → Except Defect β} (parts : List α) (draft : δ) :
    addEach edit change define parts draft = (parts.mapM define).map fun made =>
      made.foldl (fun draft part => edit draft (change part)) draft := by
  induction parts generalizing draft with
  | nil => rfl
  | cons part rest ih =>
    unfold addEach at ih ⊢
    rw [List.foldlM_cons, List.mapM_cons]
    cases define part with
    | error defect => rfl
    | ok made =>
      refine (ih _).trans ?_
      cases rest.mapM define <;> rfl

/-- Changes that each add one part at the end add them all. -/
theorem foldl_adds {add : δ → β → δ} (put : δ → List β → δ) (hnil : ∀ draft, put draft [] = draft)
    (hcons : ∀ draft part rest, put (add draft part) rest = put draft (part :: rest))
    (parts : List β) (draft : δ) : parts.foldl add draft = put draft parts := by
  induction parts generalizing draft with
  | nil => exact (hnil draft).symm
  | cons part rest ih => rw [List.foldl_cons, ih, hcons]

end Draft

theorem CriteriaDocument.define_eq (d : CriteriaDocument) :
    d.define = CriteriaDraft.finish ⟨d.success, d.failure⟩ := by
  obtain ⟨_ | success, _ | failure⟩ := d <;> rfl

theorem CapabilityDocument.define_eq (role : CapabilityRole) (d : CapabilityDocument) :
    d.define role =
      CapabilityDraft.finish role ⟨d.name, d.description, d.inputSchema, d.outputSchema⟩ := by
  obtain ⟨_ | name, _ | description, _ | input, _ | output⟩ := d <;> rfl

theorem PromptDocument.define_eq (d : PromptDocument) :
    d.define = PromptDraft.finish ⟨d.name, d.description, d.template, d.parameters⟩ := by
  obtain ⟨_ | name, _ | description, _ | template, parameters⟩ := d <;> rfl

theorem NodeDraft.foldl_dependsOn (names : List String) (draft : NodeDraft) :
    names.foldl (fun draft node => draft.edit (.dependsOn node)) draft =
      { draft with dependsOn := draft.dependsOn ++ names } :=
  Draft.foldl_adds (fun draft names => { draft with dependsOn := draft.dependsOn ++ names })
    (by simp) (by simp [NodeDraft.edit]) names draft

theorem NodeDocument.define_eq (d : NodeDocument) : d.define = NodeDraft.finish {
    name := d.name
    goal := d.goal
    description := d.description
    kind := d.kind
    reference := d.reference
    dependsOn := d.dependsOn
    inputs := d.inputs
    outputs := d.outputs } := by
  simp only [define, NodeDraft.foldl_dependsOn]
  obtain ⟨_ | name, _ | goal, _ | description, kind, _ | reference, dependsOn, inputs, outputs⟩ := d
  all_goals rfl

theorem WorkflowDraft.foldl_addNode (nodes : List Node) (draft : WorkflowDraft) :
    nodes.foldl (fun draft node => draft.edit (.addNode node)) draft =
      { draft with nodes := draft.nodes ++ nodes } :=
  Draft.foldl_adds (fun draft nodes => { draft with nodes := draft.nodes ++ nodes })
    (by simp) (by simp [WorkflowDraft.edit]) nodes draft

theorem WorkflowDocument.define_eq (d : WorkflowDocument) : d.define = (do
    let nodes ← d.nodes.mapM NodeDocument.define
    WorkflowDraft.finish {
      name := d.name
      description := d.description
      entryNode := d.entryNode
      nodes }) := by
  simp only [define, Draft.addEach_eq, WorkflowDraft.foldl_addNode]
  obtain ⟨_ | name, _ | description, _ | entryNode, nodes⟩ := d
  all_goals cases nodes.mapM NodeDocument.define <;> rfl

namespace AgentDraft

variable (draft : AgentDraft)

theorem foldl_addWorkflow (workflows : List Workflow) :
    workflows.foldl (fun draft workflow => draft.edit (.addWorkflow workflow)) draft =
      { draft with workflows := draft.workflows ++ workflows } :=
  Draft.foldl_adds (fun draft added => { draft with workflows := draft.workflows ++ added })
    (by simp) (by simp [edit]) workflows draft

theorem foldl_addModule (modules : List Capability) :
    modules.foldl (fun draft module => draft.edit (.addModule module)) draft =
      { draft with modules := draft.modules ++ modules } :=
  Draft.foldl_adds (fun draft added => { draft with modules := draft.modules ++ added })
    (by simp) (by simp [edit]) modules draft

theorem foldl_addPrompt (prompts : List Prompt) :
    prompts.foldl (fun draft prompt => draft.edit (.addPrompt prompt)) draft =
      { draft with prompts := draft.prompts ++ prompts } :=
  Draft.foldl_adds (fun draft added => { draft with prompts := draft.prompts ++ added })
    (by simp) (by simp [edit]) prompts draft

theorem foldl_addTool (tools : List Capability) :
    tools.foldl (fun draft tool => draft.edit (.addTool tool)) draft =
      { draft with tools := draft.tools ++ tools } :=
  Draft.foldl_adds (fun draft added => { draft with tools := draft.tools ++ added })
    (by simp) (by simp [edit]) tools draft

end AgentDraft

namespace AgentDocument

/-- The criteria that a document describes, if it has any. -/
def defineCriteria : Option CriteriaDocument → Except Defect (Option Criteria)
  | none => .ok none
  | some d => some <$> d.define

theorem addEach_criteria (d : Option CriteriaDocument) (draft : AgentDraft) :
    Draft.addEach AgentDraft.edit .criteria CriteriaDocument.define d.toList draft =
      (defineCriteria d).map fun criteria =>
        { draft with criteria := criteria.or draft.criteria } := by
  cases d with
  | none => rfl
  | some d =>
    rw [Draft.addEach_eq, Option.toList_some, List.mapM_cons, defineCriteria]
    cases d.define <;> rfl

theorem map_bind {α β γ : Type} (x : Except Defect α) (f : α → β) (g : β → Except Defect γ) :
    (x.map f >>= g) = x >>= fun a => g (f a) := by
  cases x <;> rfl

theorem define_eq (d : AgentDocument) : d.define = (do
    let criteria ← defineCriteria d.criteria
    let workflows ← d.workflows.mapM WorkflowDocument.define
    let modules ← d.modules.mapM (CapabilityDocument.define .module)
    let prompts ← d.prompts.mapM PromptDocument.define
    let tools ← d.tools.mapM (CapabilityDocument.define .tool)
    AgentDraft.finish {
      name := d.name
      version := d.version
      description := d.description
      kind := d.kind
      goal := d.goal
      criteria
      inputSchema := d.inputSchema
      outputSchema := d.outputSchema
      workflows, modules, prompts, tools }) := by
  simp only [define, addEach_criteria, map_bind]
  simp only [Draft.addEach_eq, AgentDraft.foldl_addWorkflow, AgentDraft.foldl_addModule,
    AgentDraft.foldl_addPrompt, AgentDraft.foldl_addTool, map_bind]
  refine bind_congr fun criteria => bind_congr fun workflows => bind_congr fun modules =>
    bind_congr fun prompts => bind_congr fun tools => congrArg AgentDraft.finish ?_
  -- a value that is missing is not set, which leaves it as it is in the empty draft
  obtain ⟨_ | name, _ | version, _ | description, kind, _ | goal, -, _ | input, _ | output, -⟩ := d
  all_goals cases criteria <;> rfl

end AgentDocument

end AgentSpec
