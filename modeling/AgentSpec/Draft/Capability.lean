import AgentSpec.Definition.Agent
import AgentSpec.Draft.Required

/-! Modules and tools in the making. -/
namespace AgentSpec

inductive CapabilityRole where
  | module
  | tool
deriving DecidableEq

namespace CapabilityRole

/-- The name under which a missing field is reported. -/
def builder : CapabilityRole → String
  | module => "ModuleBuilder"
  | tool => "ToolBuilder"

end CapabilityRole

structure CapabilityDraft where
  name : Option String := none
  description : Option String := none
  inputSchema : Option Schema := none
  outputSchema : Option Schema := none
deriving DecidableEq

inductive CapabilityEdit where
  | name (text : String)
  | description (text : String)
  | inputSchema (schema : Schema)
  | outputSchema (schema : Schema)
deriving DecidableEq

namespace CapabilityDraft

def edit (draft : CapabilityDraft) : CapabilityEdit → CapabilityDraft
  | .name text => { draft with name := some text }
  | .description text => { draft with description := some text }
  | .inputSchema schema => { draft with inputSchema := some schema }
  | .outputSchema schema => { draft with outputSchema := some schema }

/-- The module or tool, if it has a name. -/
def finish (role : CapabilityRole) (draft : CapabilityDraft) : Except Defect Capability := do
  let name ← Draft.require draft.name "name" role.builder
  pure {
    name
    description := draft.description.getD ""
    inputSchema := draft.inputSchema
    outputSchema := draft.outputSchema }

end CapabilityDraft

end AgentSpec
