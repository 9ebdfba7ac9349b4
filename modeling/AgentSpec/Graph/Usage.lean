import AgentSpec.Graph.Basic

/-! What a start node makes use of: all that follows from it, and all that those nodes need. -/
namespace AgentSpec.Graph

def isMarked (marks : Array Bool) (node : Nat) : Bool := marks.getD node false

/-- Marks the nodes of a stack and all that follow from them. Each turn takes one node off. -/
def markFollowing (g : Graph) : Nat → Array Bool → List Nat → Array Bool
  | 0, marks, _ => marks
  | _ + 1, marks, [] => marks
  | fuel + 1, marks, node :: stack =>
    if isMarked marks node then markFollowing g fuel marks stack
    else
      markFollowing g fuel (marks.setIfInBounds node true)
        ((g.next node).foldl (fun stack target => target :: stack) stack)

/-- Marks a node and puts it on the stack, unless it has been marked. -/
def discover (state : Array Bool × List Nat) (node : Nat) : Array Bool × List Nat :=
  if isMarked state.1 node then state else (state.1.setIfInBounds node true, node :: state.2)

/-- Marks all that the nodes of a stack need. Each turn takes one node off. -/
def markNeeded (g : Graph) : Nat → Array Bool → List Nat → Array Bool
  | 0, marks, _ => marks
  | _ + 1, marks, [] => marks
  | fuel + 1, marks, node :: stack =>
    let (marks, stack) := (g.previous node).foldl discover (marks, stack)
    markNeeded g fuel marks stack

def following (g : Graph) (start : Nat) : Array Bool :=
  markFollowing g (1 + g.edgeCount) (Array.replicate g.size false) [start]

/-- The nodes that follow from a start node, and the nodes that one of those follows from. -/
def usedFrom (g : Graph) (start : Nat) : Array Bool :=
  let reached := g.following start
  markNeeded g g.size reached ((List.range g.size).filter (isMarked reached))

end AgentSpec.Graph
