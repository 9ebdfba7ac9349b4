import AgentSpec.Definition.Agent
import AgentSpec.Finding
import AgentSpec.Identifier
import AgentSpec.Version

/-! The form of names and of the version. -/
namespace AgentSpec.Rule

/-- A name that is no identifier is reported. -/
def checkName (place : Place) (field name : String) : Check := fun found =>
  if isIdentifier name then found
  else found.push (.error place (.invalidFormat field name identifierPattern))

/-- Every name is an identifier: that of the agent, those of workflows with their nodes, and all
others. -/
def checkNames (agent : Agent) : Check := fun found =>
  let found := checkName (.top "name") "agent name" agent.name found
  let found := Check.eachAt agent.workflows (fun workflow i found =>
    let place := Place.entry "workflows" i
    let found := checkName (place.field "name") "workflow name" workflow.name found
    Check.eachAt workflow.nodes (fun node j =>
      checkName ((Place.node i j).field "name") "node name" node.name) found) found
  let found := Check.eachAt agent.modules (fun module i =>
    checkName ((Place.entry "modules" i).field "name") "module name" module.name) found
  let found := Check.eachAt agent.prompts (fun prompt i =>
    checkName ((Place.entry "prompts" i).field "name") "prompt name" prompt.name) found
  Check.eachAt agent.tools (fun tool i =>
    checkName ((Place.entry "tools" i).field "name") "tool name" tool.name) found

/-- The version has the form of a semantic version. -/
def checkVersion (agent : Agent) : Check := fun found =>
  match Version.parse agent.version with
  | .ok _ => found
  | .error _ =>
    found.push (.error (.top "version") (.invalidFormat "version" agent.version versionPattern))

def namingFindings (agent : Agent) : List Finding := (checkNames agent).alone

def versionFindings (agent : Agent) : List Finding := (checkVersion agent).alone

end AgentSpec.Rule
