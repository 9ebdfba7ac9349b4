import AgentSpec.Definition.Node
import AgentSpec.Draft.Required

/-! Nodes in the making. -/
namespace AgentSpec

structure NodeDraft where
  name : Option String := none
  goal : Option String := none
  description : Option String := none
  kind : NodeKind := .task
  reference : Option String := none
  dependsOn : List String := []
  inputs : List String := []
  outputs : List String := []
deriving DecidableEq

/-- A change to a draft: single values are replaced, lists grow at their end. -/
inductive NodeEdit where
  | name (text : String)
  | goal (text : String)
  | description (text : String)
  | kind (kind : NodeKind)
  | reference (target : String)
  | usesModule (target : String)
  | usesTool (target : String)
  | runsWorkflow (target : String)
  | dependsOn (node : String)
  | inputs (names : List String)
  | outputs (names : List String)
deriving DecidableEq

namespace NodeDraft

def edit (draft : NodeDraft) : NodeEdit → NodeDraft
  | .name text => { draft with name := some text }
  | .goal text => { draft with goal := some text }
  | .description text => { draft with description := some text }
  | .kind kind => { draft with kind }
  | .reference target => { draft with reference := some target }
  | .usesModule target => { draft with kind := .module, reference := some target }
  | .usesTool target => { draft with kind := .tool, reference := some target }
  | .runsWorkflow target => { draft with kind := .subworkflow, reference := some target }
  | .dependsOn node => { draft with dependsOn := draft.dependsOn ++ [node] }
  | .inputs names => { draft with inputs := draft.inputs ++ names }
  | .outputs names => { draft with outputs := draft.outputs ++ names }

/-- The node, if it has a name, a goal and the reference that its kind asks for. -/
def finish (draft : NodeDraft) : Except Defect Node := do
  let name ← Draft.require draft.name "name" "NodeBuilder"
  let goal ← Draft.require draft.goal "goal" "NodeBuilder"
  if draft.kind.requiresReference && draft.reference.isNone then
    throw (.missingField "reference" "NodeBuilder")
  pure {
    name, goal
    description := draft.description
    kind := draft.kind
    reference := draft.reference
    dependsOn := draft.dependsOn
    inputs := draft.inputs
    outputs := draft.outputs }

end NodeDraft

end AgentSpec
