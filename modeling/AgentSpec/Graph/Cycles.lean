import AgentSpec.Graph.Basic

/-!
Cycles of a graph, found by a depth-first search that keeps its path in frames of its own. Nodes
are tried in the order of their numbers and edges in the order in which they came. Every edge
that leads back to a node on the path closes a cycle.
-/
namespace AgentSpec

namespace Graph

/-- What the search knows about a node. -/
inductive Mark where
  | unvisited
  | onPath
  | done
deriving DecidableEq

/-- A node on the path with the index of the edge to follow next. -/
structure Frame where
  node : Nat
  edge : Nat
deriving DecidableEq

/-- The state of the search: the path from its first to its last node and the cycles found. -/
structure Search where
  marks : Array Mark
  /-- The position on the path of every node that is on it. -/
  depth : Array Nat
  frames : Array Frame
  cycles : Array (List Nat)

namespace Search

def start (g : Graph) : Search :=
  ⟨Array.replicate g.size .unvisited, Array.replicate g.size 0, #[], #[]⟩

def mark (s : Search) (node : Nat) : Mark := s.marks.getD node .done

/-- Puts a node at the end of the path. -/
def enter (s : Search) (node : Nat) : Search :=
  { s with
    marks := s.marks.setIfInBounds node .onPath
    depth := s.depth.setIfInBounds node s.frames.size
    frames := s.frames.push ⟨node, 0⟩ }

/-- Takes the last node off the path for good. -/
def leave (s : Search) (node : Nat) : Search :=
  { s with marks := s.marks.setIfInBounds node .done, frames := s.frames.pop }

/-- The path from a node on it to its end and back to that node. -/
def cycleTo (s : Search) (node : Nat) : List Nat :=
  ((s.frames.extract (s.depth.getD node 0) s.frames.size).toList.map (·.node)) ++ [node]

/-- Notes that the edge of the last frame has been followed. -/
def advance (s : Search) : Search :=
  { s with frames := s.frames.modify (s.frames.size - 1) fun f => { f with edge := f.edge + 1 } }

/-- One turn: follows the next edge of the last node, or leaves the node if it has none left. -/
def turn (g : Graph) (s : Search) : Search :=
  match s.frames.back? with
  | none => s
  | some frame =>
    match (g.next frame.node)[frame.edge]? with
    | none => s.leave frame.node
    | some target =>
      let s := s.advance
      match s.mark target with
      | .onPath => { s with cycles := s.cycles.push (s.cycleTo target) }
      | .unvisited => s.enter target
      | .done => s

/-- Turns until the path is empty, at most `fuel` of them. -/
def exhaust (g : Graph) : Nat → Search → Search
  | 0, s => s
  | fuel + 1, s => if s.frames.isEmpty then s else exhaust g fuel (s.turn g)

/-- The search from one node, unless it has been visited. -/
def visit (g : Graph) (s : Search) (node : Nat) : Search :=
  if s.mark node = .unvisited then exhaust g (g.size + g.edgeCount) (s.enter node) else s

end Search

/-- Every cycle that the search closes, in the order of discovery; the first node comes again. -/
def cycles (g : Graph) : List (List Nat) :=
  ((List.range g.size).foldl (Search.visit g) (Search.start g)).cycles.toList

def pathNames (g : Graph) (path : List Nat) : List String := path.map g.table.name

end Graph

end AgentSpec
