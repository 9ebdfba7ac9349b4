import AgentSpec.Document.Parts
import AgentSpec.Document.Workflow
import AgentSpec.Draft.Agent

/-! Agents as they stand in a document. -/
namespace AgentSpec

structure AgentDocument where
  name : Option String := none
  version : Option String := none
  description : Option String := none
  kind : AgentKind := .atomic
  goal : Option String := none
  criteria : Option CriteriaDocument := none
  inputSchema : Option Schema := none
  outputSchema : Option Schema := none
  workflows : List WorkflowDocument := []
  modules : List CapabilityDocument := []
  prompts : List PromptDocument := []
  tools : List CapabilityDocument := []
deriving DecidableEq

namespace AgentDocument

/-- The layout of a whole document; the kind of the agent is always written. -/
def codec : Codec AgentDocument :=
  .record "AgentDocument"
    [.optional "name" .text (·.name) fun name d => { d with name },
     .optional "version" .text (·.version) fun version d => { d with version },
     .optional "description" .text (·.description) fun description d => { d with description },
     .always "agent_type" (.choice AgentKind.name AgentKind.all) (·.kind)
       fun kind d => { d with kind },
     .optional "task_goal" .text (·.goal) fun goal d => { d with goal },
     .optional "completion_criteria" CriteriaDocument.codec (·.criteria)
       fun criteria d => { d with criteria },
     .present "input_schema" .schema (·.inputSchema) fun inputSchema d => { d with inputSchema },
     .present "output_schema" .schema (·.outputSchema)
       fun outputSchema d => { d with outputSchema },
     .many "workflows" WorkflowDocument.codec (·.workflows)
       fun workflows d => { d with workflows },
     .many "modules" CapabilityDocument.codec (·.modules) fun modules d => { d with modules },
     .many "prompts" PromptDocument.codec (·.prompts) fun prompts d => { d with prompts },
     .many "tools" CapabilityDocument.codec (·.tools) fun tools d => { d with tools }]
    {}

def ofAgent (agent : Agent) : AgentDocument where
  name := agent.name
  version := agent.version
  description := Text.nonempty? agent.description
  kind := agent.kind
  goal := agent.goal
  criteria := agent.criteria.map .ofCriteria
  inputSchema := agent.inputSchema
  outputSchema := agent.outputSchema
  workflows := agent.workflows.map .ofWorkflow
  modules := agent.modules.map .ofCapability
  prompts := agent.prompts.map .ofPrompt
  tools := agent.tools.map .ofCapability

/-- The agent that a document describes. Its parts are defined before it is finished, in this
order. -/
def define (d : AgentDocument) : Except Defect Agent := do
  let draft := ({} : AgentDraft).edit (.kind d.kind)
    |> Draft.set AgentDraft.edit .name d.name
    |> Draft.set AgentDraft.edit .version d.version
    |> Draft.set AgentDraft.edit .description d.description
    |> Draft.set AgentDraft.edit .goal d.goal
  let draft ←
    Draft.addEach AgentDraft.edit .criteria CriteriaDocument.define d.criteria.toList draft
  let draft := draft
    |> Draft.set AgentDraft.edit .inputSchema d.inputSchema
    |> Draft.set AgentDraft.edit .outputSchema d.outputSchema
  let draft ← Draft.addEach AgentDraft.edit .addWorkflow WorkflowDocument.define d.workflows draft
  let draft ←
    Draft.addEach AgentDraft.edit .addModule (CapabilityDocument.define .module) d.modules draft
  let draft ← Draft.addEach AgentDraft.edit .addPrompt PromptDocument.define d.prompts draft
  let draft ← Draft.addEach AgentDraft.edit .addTool (CapabilityDocument.define .tool) d.tools draft
  draft.finish

end AgentDocument

end AgentSpec
