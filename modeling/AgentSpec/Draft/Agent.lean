import AgentSpec.Definition.Agent
import AgentSpec.Draft.Required

/-! Agents in the making. -/
namespace AgentSpec

structure AgentDraft where
  name : Option String := none
  version : Option String := none
  description : Option String := none
  kind : AgentKind := .atomic
  goal : Option String := none
  criteria : Option Criteria := none
  inputSchema : Option Schema := none
  outputSchema : Option Schema := none
  workflows : List Workflow := []
  modules : List Capability := []
  prompts : List Prompt := []
  tools : List Capability := []
deriving DecidableEq

/-- A change to a draft: single values are replaced, lists grow at their end. -/
inductive AgentEdit where
  | name (text : String)
  | version (text : String)
  | description (text : String)
  | kind (kind : AgentKind)
  | goal (text : String)
  | criteria (criteria : Criteria)
  | inputSchema (schema : Schema)
  | outputSchema (schema : Schema)
  | addWorkflow (workflow : Workflow)
  | addModule (module : Capability)
  | addPrompt (prompt : Prompt)
  | addTool (tool : Capability)
deriving DecidableEq

namespace AgentDraft

def edit (draft : AgentDraft) : AgentEdit → AgentDraft
  | .name text => { draft with name := some text }
  | .version text => { draft with version := some text }
  | .description text => { draft with description := some text }
  | .kind kind => { draft with kind }
  | .goal text => { draft with goal := some text }
  | .criteria criteria => { draft with criteria := some criteria }
  | .inputSchema schema => { draft with inputSchema := some schema }
  | .outputSchema schema => { draft with outputSchema := some schema }
  | .addWorkflow workflow => { draft with workflows := draft.workflows ++ [workflow] }
  | .addModule module => { draft with modules := draft.modules ++ [module] }
  | .addPrompt prompt => { draft with prompts := draft.prompts ++ [prompt] }
  | .addTool tool => { draft with tools := draft.tools ++ [tool] }

/-- The agent, if it has a name and a version. -/
def finish (draft : AgentDraft) : Except Defect Agent := do
  let name ← Draft.require draft.name "name" "AgentBuilder"
  let version ← Draft.require draft.version "version" "AgentBuilder"
  pure {
    name, version
    description := draft.description.getD ""
    kind := draft.kind
    goal := draft.goal
    criteria := draft.criteria
    inputSchema := draft.inputSchema
    outputSchema := draft.outputSchema
    workflows := draft.workflows
    modules := draft.modules
    prompts := draft.prompts
    tools := draft.tools }

end AgentDraft

end AgentSpec
