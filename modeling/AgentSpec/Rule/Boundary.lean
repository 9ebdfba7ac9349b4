import AgentSpec.Definition.Agent
import AgentSpec.Finding
import AgentSpec.Text.Words

/-!
Terms that a definition should not contain, because it describes work and does not drive it. A
term occurs in a text if its words stand there one after the other, in any case.
-/
namespace AgentSpec.Rule

/-- The terms that are reserved unless a configuration replaces them. -/
def defaultTerms : List String :=
  ["execute", "execution", "runtime", "scheduler", "cron", "billing", "payment", "invoice",
   "daemon", "autorun"]

def optionalText (place : Place) (text : Option String) : List (Place × String) :=
  match text with
  | some text => [(place, text)]
  | none => []

def listedTexts (place : Place) (texts : List String) : List (Place × String) :=
  texts.zipIdx.map fun (text, k) => (place.item k, text)

def nodeTexts (place : Place) (node : Node) : List (Place × String) :=
  [(place.field "name", node.name), (place.field "goal", node.goal)] ++
    optionalText (place.field "description") node.description ++
    optionalText (place.field "reference") node.reference ++
    listedTexts (place.field "inputs") node.inputs ++
    listedTexts (place.field "outputs") node.outputs

def workflowTexts (i : Nat) (workflow : Workflow) : List (Place × String) :=
  let place := Place.entry "workflows" i
  [(place.field "name", workflow.name), (place.field "description", workflow.description),
    (place.field "entry_node", workflow.entryNode)] ++
    workflow.nodes.zipIdx.flatMap fun (node, j) => nodeTexts (Place.node i j) node

def capabilityTexts (collection : String) (capabilities : List Capability) :
    List (Place × String) :=
  capabilities.zipIdx.flatMap fun (capability, i) =>
    let place := Place.entry collection i
    [(place.field "name", capability.name), (place.field "description", capability.description)]

def promptTexts (i : Nat) (prompt : Prompt) : List (Place × String) :=
  let place := Place.entry "prompts" i
  [(place.field "name", prompt.name), (place.field "description", prompt.description),
    (place.field "template", prompt.template)] ++
    listedTexts (place.field "variables") prompt.parameters

def criteriaTexts (criteria : Option Criteria) : List (Place × String) :=
  match criteria with
  | some criteria =>
    let place := Place.top "completion_criteria"
    [(place.field "success", criteria.success), (place.field "failure", criteria.failure)]
  | none => []

def scannedTexts (agent : Agent) : List (Place × String) :=
  [(.top "name", agent.name), (.top "description", agent.description)] ++
    optionalText (.top "task_goal") agent.goal ++
    criteriaTexts agent.criteria ++
    (agent.workflows.zipIdx.flatMap fun (workflow, i) => workflowTexts i workflow) ++
    capabilityTexts "modules" agent.modules ++
    (agent.prompts.zipIdx.flatMap fun (prompt, i) => promptTexts i prompt) ++
    capabilityTexts "tools" agent.tools

/-- No scanned text contains a reserved term. A term without words is never found. -/
def checkBoundary (terms : List String) (agent : Agent) : Check := fun found =>
  let terms := (terms.map fun term => (term, Text.tokens term)).filter fun (_, words) =>
    !words.isEmpty
  if terms.isEmpty then found
  else
    Check.each (scannedTexts agent) (fun (place, text) =>
      let words := Text.tokens text
      Check.each terms fun (term, pattern) found =>
        if Text.hasWindow pattern words then
          found.push (.warning place (.reservedTerm place.render term))
        else found) found

def boundaryFindings (terms : List String) (agent : Agent) : List Finding :=
  (checkBoundary terms agent).alone

end AgentSpec.Rule
