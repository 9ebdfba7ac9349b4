import AgentSpec.Definition.Agent
import AgentSpec.Finding
import AgentSpec.Graph.Cycles
import AgentSpec.Graph.Usage

/-! Cycles among nodes and among workflows, and nodes without a link to the entry. -/
namespace AgentSpec.Rule

/-- The calls between workflows: an edge for each node that runs another workflow. -/
def calls (agent : Agent) : List Edge :=
  agent.workflows.flatMap fun workflow =>
    workflow.nodes.filterMap fun node =>
      if node.kind = .subworkflow then node.reference.map fun target => ⟨workflow.name, target⟩
      else none

/-- The graph of calls between the workflows of an agent. -/
def callGraph (agent : Agent) : Graph :=
  .ofEdges (agent.workflows.map (·.name)) (calls agent)

/-- Neither the nodes of a workflow nor the workflows among themselves form a cycle. -/
def checkCycles (agent : Agent) : Check := fun found =>
  let found := Check.eachAt agent.workflows (fun workflow i =>
    let graph := Graph.ofWorkflow workflow
    Check.each graph.cycles fun path found =>
      found.push (.error ((Place.entry "workflows" i).field "nodes")
        (.cycle workflow.name (graph.pathNames path)))) found
  let graph := callGraph agent
  Check.each graph.cycles (fun path found =>
    let names := graph.pathNames path
    found.push (.error (.top "workflows") (.cycle (names.headD "") names))) found

/-- The first node of every name with its index, after the names of `seen`. -/
def firstNodes (seen : NameTable) : List (Node × Nat) → List (Node × Nat)
  | [] => []
  | (node, j) :: rest =>
    if seen.contains node.name then firstNodes seen rest
    else (node, j) :: firstNodes (seen.insert node.name) rest

/-- Every node follows from the entry node or is needed by a node that does. -/
def checkReachability (agent : Agent) : Check :=
  Check.eachAt agent.workflows fun workflow i found =>
    let graph := Graph.ofWorkflow workflow
    match graph.table.number? workflow.entryNode with
    | none => found
    | some entry =>
      let used := graph.usedFrom entry
      Check.each (firstNodes .empty workflow.nodes.zipIdx) (fun (node, j) found =>
        match graph.table.number? node.name with
        | some number =>
          if Graph.isMarked used number then found
          else found.push (.warning (Place.node i j) (.unreachable workflow.name node.name))
        | none => found) found

def cycleFindings (agent : Agent) : List Finding := (checkCycles agent).alone

def reachabilityFindings (agent : Agent) : List Finding := (checkReachability agent).alone

end AgentSpec.Rule
