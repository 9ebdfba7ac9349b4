import AgentSpec.Definition.Agent
import AgentSpec.Draft.Required

/-! Prompts in the making. -/
namespace AgentSpec

structure PromptDraft where
  name : Option String := none
  description : Option String := none
  template : Option String := none
  parameters : List String := []
deriving DecidableEq

/-- A change to a draft: single values are replaced, parameters are appended. -/
inductive PromptEdit where
  | name (text : String)
  | description (text : String)
  | template (text : String)
  | parameters (names : List String)
deriving DecidableEq

namespace PromptDraft

def edit (draft : PromptDraft) : PromptEdit → PromptDraft
  | .name text => { draft with name := some text }
  | .description text => { draft with description := some text }
  | .template text => { draft with template := some text }
  | .parameters names => { draft with parameters := draft.parameters ++ names }

/-- The prompt, if it has a name and a template. -/
def finish (draft : PromptDraft) : Except Defect Prompt := do
  let name ← Draft.require draft.name "name" "PromptBuilder"
  let template ← Draft.require draft.template "template" "PromptBuilder"
  pure { name, template, description := draft.description.getD "", parameters := draft.parameters }

end PromptDraft

end AgentSpec
