import AgentSpec.Definition.Workflow
import AgentSpec.Draft.Required

/-! Workflows in the making. -/
namespace AgentSpec

structure WorkflowDraft where
  name : Option String := none
  description : Option String := none
  entryNode : Option String := none
  nodes : List Node := []
deriving DecidableEq

/-- A change to a draft: single values are replaced, nodes are appended. -/
inductive WorkflowEdit where
  | name (text : String)
  | description (text : String)
  | entryNode (node : String)
  | addNode (node : Node)
deriving DecidableEq

namespace WorkflowDraft

def edit (draft : WorkflowDraft) : WorkflowEdit → WorkflowDraft
  | .name text => { draft with name := some text }
  | .description text => { draft with description := some text }
  | .entryNode node => { draft with entryNode := some node }
  | .addNode node => { draft with nodes := draft.nodes ++ [node] }

/-- The workflow, if it has a name and an entry node. -/
def finish (draft : WorkflowDraft) : Except Defect Workflow := do
  let name ← Draft.require draft.name "name" "WorkflowBuilder"
  let entryNode ← Draft.require draft.entryNode "entry_node" "WorkflowBuilder"
  pure { name, entryNode, description := draft.description.getD "", nodes := draft.nodes }

end WorkflowDraft

end AgentSpec
