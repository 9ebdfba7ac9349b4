import AgentSpec.Definition.Agent
import AgentSpec.Finding
import AgentSpec.Graph.Names

/-!
References and their targets. A task may refer to a module or a tool, a module or tool node only
to its own kind, and a subworkflow node to a workflow.
-/
namespace AgentSpec.Rule

/-- The names that nodes of an agent can refer to. -/
structure Targets where
  modules : NameTable
  tools : NameTable
  workflows : NameTable

namespace Targets

def ofAgent (agent : Agent) : Targets :=
  ⟨.ofList (agent.modules.map (·.name)), .ofList (agent.tools.map (·.name)),
    .ofList (agent.workflows.map (·.name))⟩

def resolves (targets : Targets) (kind : NodeKind) (name : String) : Bool :=
  match kind with
  | .task => targets.modules.contains name || targets.tools.contains name
  | .module => targets.modules.contains name
  | .tool => targets.tools.contains name
  | .subworkflow => targets.workflows.contains name

end Targets

/-- The reference of one node resolves. -/
def checkNodeReference (targets : Targets) (place : Place) (node : Node) : Check := fun found =>
  match node.reference with
  | some target =>
    if targets.resolves node.kind target then found
    else found.push (.error (place.field "reference") (.unresolved node.name target))
  | none => found

/-- The dependencies and the reference of one node resolve. -/
def checkNodeReferences (targets : Targets) (nodes : NameTable) (place : Place) (node : Node) :
    Check := fun found =>
  let found := Check.eachAt node.dependsOn (fun name k found =>
    if nodes.contains name then found
    else found.push (.error ((place.field "depends_on").item k) (.unresolved node.name name))) found
  checkNodeReference targets place node found

/-- Every entry node, dependency and reference names something. -/
def checkReferences (agent : Agent) : Check :=
  let targets := Targets.ofAgent agent
  Check.eachAt agent.workflows fun workflow i found =>
    let nodes := NameTable.ofList (workflow.nodes.map (·.name))
    let found :=
      if nodes.contains workflow.entryNode then found
      else found.push (.error ((Place.entry "workflows" i).field "entry_node")
        (.unresolved workflow.name workflow.entryNode))
    Check.eachAt workflow.nodes (fun node j =>
      checkNodeReferences targets nodes (Place.node i j) node) found

/-- The names of modules and tools that nodes refer to. -/
def usedNames (agent : Agent) : List String :=
  agent.workflows.flatMap fun workflow =>
    workflow.nodes.filterMap fun node =>
      if node.kind = .subworkflow then none else node.reference

/-- Every module and every tool has a use. -/
def checkUsage (agent : Agent) : Check := fun found =>
  let used := NameTable.ofList (usedNames agent)
  let ofCollection (collection : String) (capabilities : List Capability) : Check :=
    Check.eachAt capabilities fun capability i found =>
      if used.contains capability.name then found
      else found.push (.info (Place.entry collection i)
        (.unused ("agent '" ++ agent.name ++ "'") capability.name))
  let found := ofCollection "modules" agent.modules found
  ofCollection "tools" agent.tools found

def referenceFindings (agent : Agent) : List Finding := (checkReferences agent).alone

def usageFindings (agent : Agent) : List Finding := (checkUsage agent).alone

end AgentSpec.Rule
