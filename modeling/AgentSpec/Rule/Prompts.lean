import AgentSpec.Definition.Agent
import AgentSpec.Finding
import AgentSpec.Identifier
import AgentSpec.Template

/-! Placeholders of prompts against the identifiers and against the declared parameters. -/
namespace AgentSpec.Rule

/-- Placeholders are identifiers; if parameters are declared, both name the same. -/
def checkPrompt (prompt : Prompt) (i : Nat) : Check := fun found =>
  let place := Place.entry "prompts" i
  let placeholders := Template.placeholders prompt.template
  let found := Check.each placeholders (fun name found =>
    if isIdentifier name then found
    else found.push (.error (place.field "template")
      (.invalidFormat "placeholder" name identifierPattern))) found
  if prompt.parameters.isEmpty then found
  else
    let found := Check.each placeholders (fun name found =>
      if prompt.parameters.contains name then found
      else found.push (.warning (place.field "template") (.unresolved prompt.name name))) found
    Check.eachAt prompt.parameters (fun name k found =>
      if placeholders.contains name then found
      else found.push (.info ((place.field "variables").item k)
        (.unused ("prompt '" ++ prompt.name ++ "'") name))) found

def checkPrompts (agent : Agent) : Check :=
  Check.eachAt agent.prompts checkPrompt

def promptFindings (agent : Agent) : List Finding := (checkPrompts agent).alone

end AgentSpec.Rule
