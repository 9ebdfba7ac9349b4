import AgentSpec.Document.Node
import AgentSpec.Draft.Workflow

/-! Workflows as they stand in a document. -/
namespace AgentSpec

structure WorkflowDocument where
  name : Option String := none
  description : Option String := none
  entryNode : Option String := none
  nodes : List NodeDocument := []
deriving DecidableEq

namespace WorkflowDocument

def codec : Codec WorkflowDocument :=
  .record "WorkflowDocument"
    [.optional "name" .text (·.name) fun name d => { d with name },
     .optional "description" .text (·.description) fun description d => { d with description },
     .optional "entry_node" .text (·.entryNode) fun entryNode d => { d with entryNode },
     .many "nodes" NodeDocument.codec (·.nodes) fun nodes d => { d with nodes }]
    {}

def ofWorkflow (workflow : Workflow) : WorkflowDocument where
  name := workflow.name
  description := Text.nonempty? workflow.description
  entryNode := workflow.entryNode
  nodes := workflow.nodes.map .ofNode

/-- The workflow that a document describes. Its nodes are defined before it is finished. -/
def define (d : WorkflowDocument) : Except Defect Workflow := do
  let draft := ({} : WorkflowDraft)
    |> Draft.set WorkflowDraft.edit .name d.name
    |> Draft.set WorkflowDraft.edit .description d.description
    |> Draft.set WorkflowDraft.edit .entryNode d.entryNode
  let draft ← Draft.addEach WorkflowDraft.edit .addNode NodeDocument.define d.nodes draft
  draft.finish

end WorkflowDocument

end AgentSpec
