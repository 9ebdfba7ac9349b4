import AgentSpec.Definition.Agent
import AgentSpec.Finding
import AgentSpec.Graph.Names

/-! Repeated names and empty collections. -/
namespace AgentSpec.Rule

def occurrenceCounts (table : NameTable) (names : List String) : Array Nat :=
  names.foldl
    (fun counts name =>
      match table.number? name with
      | some number => counts.modify number (· + 1)
      | none => counts)
    (Array.replicate table.size 0)

/-- The names that occur more than once, each once, in the order of their first occurrence. -/
def repeated (names : List String) : List String :=
  let table := NameTable.ofList names
  let counts := occurrenceCounts table names
  (table.names.toList.zipIdx.filter fun (_, number) => 1 < counts.getD number 0).map (·.1)

/-- One error for each repeated name of a scope. -/
def checkRepetitions (scope : String) (place : Place) (names : List String) : Check :=
  Check.each (repeated names) fun name found => found.push (.error place (.duplicate scope name))

/-- No two entities in one list have the same name. -/
def checkUniqueness (agent : Agent) : Check := fun found =>
  let ofAgent (collection : String) (names : List String) : Check :=
    checkRepetitions (collection ++ " of agent '" ++ agent.name ++ "'") (.top collection) names
  let found := ofAgent "workflows" (agent.workflows.map (·.name)) found
  let found := ofAgent "modules" (agent.modules.map (·.name)) found
  let found := ofAgent "prompts" (agent.prompts.map (·.name)) found
  let found := ofAgent "tools" (agent.tools.map (·.name)) found
  Check.eachAt agent.workflows (fun workflow i =>
    checkRepetitions ("nodes of workflow '" ++ workflow.name ++ "'")
      ((Place.entry "workflows" i).field "nodes") (workflow.nodes.map (·.name))) found

/-- An agent has workflows, and a workflow has nodes. -/
def checkEmptiness (agent : Agent) : Check := fun found =>
  let found :=
    if agent.workflows.isEmpty then
      found.push (.warning (.top "workflows")
        (.emptyCollection "workflows" ("agent '" ++ agent.name ++ "'")))
    else found
  Check.eachAt agent.workflows (fun workflow i found =>
    if workflow.nodes.isEmpty then
      found.push (.warning ((Place.entry "workflows" i).field "nodes")
        (.emptyCollection "nodes" ("workflow '" ++ workflow.name ++ "'")))
    else found) found

def uniquenessFindings (agent : Agent) : List Finding := (checkUniqueness agent).alone

def emptinessFindings (agent : Agent) : List Finding := (checkEmptiness agent).alone

end AgentSpec.Rule
