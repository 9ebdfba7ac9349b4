import AgentSpec.Definition.Node

/-!
Workflows. A dependency is an edge from the node that is needed to the node that needs it. Edges
follow the order of declaration, and within a node the order of its dependencies.
-/
namespace AgentSpec

/-- Nodes under a common name with the name of the node to start at. -/
structure Workflow where
  name : String
  description : String
  entryNode : String
  nodes : List Node
deriving DecidableEq

/-- A dependency between two names, whether or not they name nodes. -/
structure Edge where
  source : String
  target : String
deriving DecidableEq

namespace Workflow

def node? (w : Workflow) (name : String) : Option Node := w.nodes.find? (·.name == name)

/-- All dependencies, also those on names that no node has. -/
def edges (w : Workflow) : List Edge :=
  w.nodes.flatMap fun node => node.dependsOn.map fun source => ⟨source, node.name⟩

/-- The nodes that depend on that name. -/
def dependents (w : Workflow) (name : String) : List Node :=
  w.nodes.filter (·.dependsOn.contains name)

/-- The nodes that the first node of that name depends on, in the order it lists them. -/
def dependencies (w : Workflow) (name : String) : List Node :=
  match w.node? name with
  | some node => node.dependsOn.filterMap w.node?
  | none => []

end Workflow

end AgentSpec
