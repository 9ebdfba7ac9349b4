import AgentSpec.Definition.Workflow
import AgentSpec.Graph.Names

/-! Directed graphs over distinct names. -/
namespace AgentSpec

/--
The nodes are numbered like their names. Every edge is kept at both of its ends: the successors
of a node are in the order in which the edges came, without repetition, and so are the
predecessors.
-/
structure Graph where
  table : NameTable
  successors : Array (Array Nat)
  predecessors : Array (Array Nat)

namespace Graph

/-- The graph over the distinct names of a list, without edges. -/
def ofNames (names : List String) : Graph :=
  let table := NameTable.ofList names
  ⟨table, Array.replicate table.size #[], Array.replicate table.size #[]⟩

def size (g : Graph) : Nat := g.successors.size

/-- The successors of a node in the order of their edges. -/
def next (g : Graph) (node : Nat) : Array Nat := g.successors.getD node #[]

/-- The predecessors of a node in the order of their edges. -/
def previous (g : Graph) (node : Nat) : Array Nat := g.predecessors.getD node #[]

def edgeCount (g : Graph) : Nat :=
  g.successors.foldl (fun count targets => count + targets.size) 0

/-- The graph with an edge between two numbered nodes, unless it has that edge. -/
def link (g : Graph) (source target : Nat) : Graph :=
  if (g.next source).contains target then g
  else
    { g with
      successors := g.successors.modify source (·.push target)
      predecessors := g.predecessors.modify target (·.push source) }

/-- The graph with an edge between two names; without a change if one of them is no node. -/
def addEdge (g : Graph) (edge : Edge) : Graph :=
  match g.table.number? edge.source, g.table.number? edge.target with
  | some source, some target => g.link source target
  | _, _ => g

/-- The graph over some names with those of the edges that connect two of the names. -/
def ofEdges (names : List String) (edges : List Edge) : Graph :=
  edges.foldl addEdge (ofNames names)

/-- The dependencies of a workflow among its own nodes. -/
def ofWorkflow (w : Workflow) : Graph := ofEdges (w.nodes.map (·.name)) w.edges

end Graph

end AgentSpec
