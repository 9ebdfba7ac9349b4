import AgentSpec.Document.Codec
import AgentSpec.Draft.Node

/-! Nodes as they stand in a document. -/
namespace AgentSpec

structure NodeDocument where
  name : Option String := none
  goal : Option String := none
  description : Option String := none
  kind : NodeKind := .task
  reference : Option String := none
  dependsOn : List String := []
  inputs : List String := []
  outputs : List String := []
deriving DecidableEq

namespace NodeDocument

/-- Everything about a node is optional in a document; its kind is always written. -/
def codec : Codec NodeDocument :=
  .record "NodeDocument"
    [.optional "name" .text (·.name) fun name d => { d with name },
     .optional "goal" .text (·.goal) fun goal d => { d with goal },
     .optional "description" .text (·.description) fun description d => { d with description },
     .always "type" (.choice NodeKind.name NodeKind.all) (·.kind) fun kind d => { d with kind },
     .optional "reference" .text (·.reference) fun reference d => { d with reference },
     .many "depends_on" .text (·.dependsOn) fun dependsOn d => { d with dependsOn },
     .many "inputs" .text (·.inputs) fun inputs d => { d with inputs },
     .many "outputs" .text (·.outputs) fun outputs d => { d with outputs }]
    {}

def ofNode (node : Node) : NodeDocument where
  name := node.name
  goal := node.goal
  description := node.description
  kind := node.kind
  reference := node.reference
  dependsOn := node.dependsOn
  inputs := node.inputs
  outputs := node.outputs

/-- The node that a document describes, made by changes to an empty draft. -/
def define (d : NodeDocument) : Except Defect Node :=
  let draft := (({} : NodeDraft).edit (.kind d.kind)).edit (.inputs d.inputs)
    |>.edit (.outputs d.outputs)
    |> Draft.set NodeDraft.edit .name d.name
    |> Draft.set NodeDraft.edit .goal d.goal
    |> Draft.set NodeDraft.edit .description d.description
    |> Draft.set NodeDraft.edit .reference d.reference
  (d.dependsOn.foldl (fun draft node => draft.edit (.dependsOn node)) draft).finish

end NodeDocument

end AgentSpec
