import AgentSpec.Rule.Engine
import Mathlib.Data.List.Basic

/-! What checks add to what has been found: the same, whatever that is. -/
namespace AgentSpec

namespace Check

variable {α : Type} {check first second : Check} {fs gs : List Finding}

/-- The check adds exactly these findings, whatever has been found before. -/
def Emits (check : Check) (findings : List Finding) : Prop :=
  ∀ found, (check found).toList = found.toList ++ findings

/-- The check adds what it finds alone, whatever has been found before. -/
def Appends (check : Check) : Prop := check.Emits check.alone

theorem Appends.eq (h : check.Appends) (found : Array Finding) :
    check found = found ++ check #[] := by
  rw [← Array.toList_inj, h found, Array.toList_append]
  rfl

namespace Emits

theorem alone_eq (h : check.Emits fs) : check.alone = fs := by
  rw [alone, h #[], List.nil_append]

theorem appends (h : check.Emits fs) : check.Appends := by
  rw [Appends, h.alone_eq]
  exact h

theorem congr (h : first.Emits fs) (he : ∀ found, second found = first found) :
    second.Emits fs := by
  intro found
  rw [he, h found]

theorem nothing : Emits (fun found => found) [] := by
  intro found
  rw [List.append_nil]

theorem push (f : Finding) : Emits (fun found => found.push f) [f] := by
  intro found
  rw [Array.toList_push]

/-- The check comes after others: what they have added stands in front of what it adds. -/
theorem after (h : check.Emits gs) {found now : Array Finding}
    (hn : now.toList = found.toList ++ fs) : (check now).toList = found.toList ++ (fs ++ gs) := by
  rw [h, hn, List.append_assoc]

theorem ite {p : Prop} [Decidable p] (h : first.Emits fs) (h' : second.Emits gs) :
    Emits (fun found => if p then first found else second found) (if p then fs else gs) := by
  by_cases hp : p
  · simp only [hp, if_true]
    exact h
  · simp only [hp, if_false]
    exact h'

theorem pushIf {p : Prop} [Decidable p] {f : Finding} :
    Emits (fun found => if p then found.push f else found) (if p then [f] else []) :=
  ite (push f) nothing

theorem pushUnless {p : Prop} [Decidable p] {f : Finding} :
    Emits (fun found => if p then found else found.push f) (if p then [] else [f]) :=
  ite nothing (push f)

theorem pushIf? {p : Prop} [Decidable p] {f : Finding} :
    Emits (fun found => if p then found.push f else found) (if p then some f else none).toList := by
  rw [apply_ite Option.toList]
  exact pushIf

theorem pushUnless? {p : Prop} [Decidable p] {f : Finding} :
    Emits (fun found => if p then found else found.push f) (if p then none else some f).toList := by
  rw [apply_ite Option.toList]
  exact pushUnless

/-- The findings about the elements of a list stand one after the other. -/
theorem each (items : List α) {check : α → Check} {emitted : α → List Finding}
    (h : ∀ a, (check a).Emits (emitted a)) :
    (Check.each items check).Emits (items.flatMap emitted) := by
  induction items with
  | nil => exact nothing
  | cons a rest ih =>
    intro found
    rw [List.flatMap_cons]
    exact ih.after (h a found)

theorem eachAt (items : List α) {check : α → Nat → Check} {emitted : α × Nat → List Finding}
    (h : ∀ a i, (check a i).Emits (emitted (a, i))) :
    (Check.eachAt items check).Emits (items.zipIdx.flatMap emitted) :=
  each items.zipIdx fun p => h p.1 p.2

/-- One finding about each element at most. -/
theorem each_option (items : List α) {check : α → Check} {finding? : α → Option Finding}
    (h : ∀ a, (check a).Emits (finding? a).toList) :
    (Check.each items check).Emits (items.filterMap finding?) := by
  rw [List.filterMap_eq_flatMap_toList]
  exact each items h

theorem each_push (items : List α) {finding : α → Finding} :
    (Check.each items fun a found => found.push (finding a)).Emits (items.map finding) := by
  rw [List.map_eq_flatMap]
  exact each items fun a => push (finding a)

/-- The elements that do not pass a test are reported. -/
theorem each_unless (items : List α) {p : α → Bool} {finding : α → Finding} :
    (Check.each items fun a found => if p a then found else found.push (finding a)).Emits
      (items.filterMap fun a => if p a then none else some (finding a)) := by
  exact each_option items fun a => .pushUnless?

end Emits

end Check

namespace Rule

variable {agent : Agent} {place : Place} {fields : List (String × Json)}

/-- A name with the kind of entity that bears it and its place. -/
structure NamedPlace where
  place : Place
  field : String
  name : String

/-- Every name of an agent: its own, those of workflows with their nodes, and all others. -/
def names (agent : Agent) : List NamedPlace :=
  ⟨.top "name", "agent name", agent.name⟩ ::
    (agent.workflows.zipIdx.flatMap fun (workflow, i) =>
      ⟨(Place.entry "workflows" i).field "name", "workflow name", workflow.name⟩ ::
        workflow.nodes.zipIdx.map fun (node, j) =>
          ⟨(Place.node i j).field "name", "node name", node.name⟩) ++
    (agent.modules.zipIdx.map fun (module, i) =>
      ⟨(Place.entry "modules" i).field "name", "module name", module.name⟩) ++
    (agent.prompts.zipIdx.map fun (prompt, i) =>
      ⟨(Place.entry "prompts" i).field "name", "prompt name", prompt.name⟩) ++
    (agent.tools.zipIdx.map fun (tool, i) =>
      ⟨(Place.entry "tools" i).field "name", "tool name", tool.name⟩)

/-- What is found about one name. -/
def nameFinding? : NamedPlace → Option Finding
  | ⟨place, field, name⟩ =>
    if isIdentifier name then none
    else some (.error place (.invalidFormat field name identifierPattern))

theorem emits_checkName (place : Place) (field name : String) :
    (checkName place field name).Emits (nameFinding? ⟨place, field, name⟩).toList := by
  exact .pushUnless?

theorem emits_checkNames (agent : Agent) :
    (checkNames agent).Emits ((names agent).filterMap nameFinding?) := by
  intro found
  rw [List.filterMap_eq_flatMap_toList]
  simp only [checkNames, names, List.flatMap_append, List.flatMap_cons, List.flatMap_assoc,
    List.flatMap_map]
  refine Check.Emits.after (.eachAt agent.tools fun _ _ => emits_checkName _ _ _) ?_
  refine Check.Emits.after (.eachAt agent.prompts fun _ _ => emits_checkName _ _ _) ?_
  refine Check.Emits.after (.eachAt agent.modules fun _ _ => emits_checkName _ _ _) ?_
  refine Check.Emits.after (.eachAt agent.workflows fun workflow i found => ?_)
    (emits_checkName _ _ _ found)
  exact Check.Emits.after (.eachAt workflow.nodes fun _ _ => emits_checkName _ _ _)
    (emits_checkName _ _ _ found)

theorem emits_checkVersion (agent : Agent) : (checkVersion agent).Emits
    (match Version.parse agent.version with
    | .ok _ => []
    | .error _ =>
      [.error (.top "version") (.invalidFormat "version" agent.version versionPattern)]) := by
  unfold checkVersion
  cases Version.parse agent.version with
  | ok v => exact .nothing
  | error e => exact .push _

theorem emits_checkRepetitions (scope : String) (place : Place) (names : List String) :
    (checkRepetitions scope place names).Emits
      ((repeated names).map fun name => .error place (.duplicate scope name)) :=
  .each_push _

theorem emits_checkUniqueness (agent : Agent) : (checkUniqueness agent).Emits
    (let ofAgent (collection : String) (names : List String) : List Finding :=
      (checkRepetitions (collection ++ " of agent '" ++ agent.name ++ "'") (.top collection)
        names).alone
    ofAgent "workflows" (agent.workflows.map (·.name)) ++
      ofAgent "modules" (agent.modules.map (·.name)) ++
      ofAgent "prompts" (agent.prompts.map (·.name)) ++
      ofAgent "tools" (agent.tools.map (·.name)) ++
      agent.workflows.zipIdx.flatMap fun (workflow, i) =>
        (checkRepetitions ("nodes of workflow '" ++ workflow.name ++ "'")
          ((Place.entry "workflows" i).field "nodes") (workflow.nodes.map (·.name))).alone) := by
  intro found
  have h : ∀ scope place names, (checkRepetitions scope place names).Appends :=
    fun scope place names => (emits_checkRepetitions scope place names).appends
  unfold checkUniqueness
  refine Check.Emits.after (.eachAt agent.workflows fun _ _ => ?_) ?_
  · exact h _ _ _
  · exact (h _ _ _).after ((h _ _ _).after ((h _ _ _).after (h _ _ _ found)))

theorem emits_checkEmptiness (agent : Agent) : (checkEmptiness agent).Emits
    ((if agent.workflows.isEmpty then
      [.warning (.top "workflows")
        (.emptyCollection "workflows" ("agent '" ++ agent.name ++ "'"))]
    else []) ++
      agent.workflows.zipIdx.flatMap fun (workflow, i) =>
        if workflow.nodes.isEmpty then
          [.warning ((Place.entry "workflows" i).field "nodes")
            (.emptyCollection "nodes" ("workflow '" ++ workflow.name ++ "'"))]
        else []) := by
  intro found
  unfold checkEmptiness
  exact Check.Emits.after (.eachAt agent.workflows fun _ _ => .pushIf) (Check.Emits.pushIf found)

theorem emits_checkNodeReference (targets : Targets) (place : Place) (node : Node) :
    (checkNodeReference targets place node).Emits
      (match node.reference with
      | some target =>
        if targets.resolves node.kind target then []
        else [.error (place.field "reference") (.unresolved node.name target)]
      | none => []) := by
  unfold checkNodeReference
  cases node.reference with
  | none => exact .nothing
  | some target => exact .pushUnless

theorem emits_checkNodeReferences (targets : Targets) (nodes : NameTable) (place : Place)
    (node : Node) : (checkNodeReferences targets nodes place node).Emits
      ((node.dependsOn.zipIdx.filterMap fun (name, k) =>
        if nodes.contains name then none
        else some (.error ((place.field "depends_on").item k) (.unresolved node.name name))) ++
        (checkNodeReference targets place node).alone) := by
  intro found
  unfold checkNodeReferences
  exact (emits_checkNodeReference targets place node).appends.after
    (Check.Emits.each_unless node.dependsOn.zipIdx found)

theorem emits_checkReferences (agent : Agent) :
    (checkReferences agent).Emits (agent.workflows.zipIdx.flatMap fun (workflow, i) =>
      let nodes := NameTable.ofList (workflow.nodes.map (·.name))
      (if nodes.contains workflow.entryNode then []
      else [.error ((Place.entry "workflows" i).field "entry_node")
        (.unresolved workflow.name workflow.entryNode)]) ++
        workflow.nodes.zipIdx.flatMap fun (node, j) =>
          (checkNodeReferences (.ofAgent agent) nodes (Place.node i j) node).alone) := by
  unfold checkReferences
  refine .eachAt agent.workflows fun workflow i found => ?_
  refine Check.Emits.after (.eachAt workflow.nodes fun _ _ => ?_) (Check.Emits.pushUnless found)
  exact (emits_checkNodeReferences _ _ _ _).appends

theorem emits_checkUsage (agent : Agent) : (checkUsage agent).Emits
    (let used := NameTable.ofList (usedNames agent)
    let ofCollection (collection : String) (capabilities : List Capability) : List Finding :=
      capabilities.zipIdx.filterMap fun (capability, i) =>
        if used.contains capability.name then none
        else some (.info (Place.entry collection i)
          (.unused ("agent '" ++ agent.name ++ "'") capability.name))
    ofCollection "modules" agent.modules ++ ofCollection "tools" agent.tools) := by
  intro found
  unfold checkUsage
  exact Check.Emits.after (.each_unless agent.tools.zipIdx)
    (Check.Emits.each_unless agent.modules.zipIdx found)

theorem emits_checkCycles (agent : Agent) : (checkCycles agent).Emits
    ((agent.workflows.zipIdx.flatMap fun (workflow, i) =>
      let graph := Graph.ofWorkflow workflow
      graph.cycles.map fun path =>
        .error ((Place.entry "workflows" i).field "nodes")
          (.cycle workflow.name (graph.pathNames path))) ++
      let graph := callGraph agent
      graph.cycles.map fun path =>
        let names := graph.pathNames path
        .error (.top "workflows") (.cycle (names.headD "") names)) := by
  intro found
  unfold checkCycles
  exact Check.Emits.after (.each_push (callGraph agent).cycles)
    (Check.Emits.eachAt agent.workflows
      (fun workflow _ => .each_push (Graph.ofWorkflow workflow).cycles) found)

theorem emits_checkReachability (agent : Agent) :
    (checkReachability agent).Emits (agent.workflows.zipIdx.flatMap fun (workflow, i) =>
      let graph := Graph.ofWorkflow workflow
      match graph.table.number? workflow.entryNode with
      | none => []
      | some entry =>
        let used := graph.usedFrom entry
        (firstNodes .empty workflow.nodes.zipIdx).filterMap fun (node, j) =>
          match graph.table.number? node.name with
          | some number =>
            if Graph.isMarked used number then none
            else some (.warning (Place.node i j) (.unreachable workflow.name node.name))
          | none => none) := by
  unfold checkReachability
  refine .eachAt agent.workflows fun workflow i => ?_
  dsimp only
  cases (Graph.ofWorkflow workflow).table.number? workflow.entryNode with
  | none => exact .nothing
  | some entry =>
    refine .each_option (firstNodes .empty workflow.nodes.zipIdx) fun p => ?_
    cases (Graph.ofWorkflow workflow).table.number? p.1.name with
    | none => exact .nothing
    | some number => exact .pushUnless?

theorem emits_checkPrompt (prompt : Prompt) (i : Nat) : (checkPrompt prompt i).Emits
    (let place := Place.entry "prompts" i
    let placeholders := Template.placeholders prompt.template
    let malformed : List Finding := placeholders.filterMap fun name =>
      if isIdentifier name then none
      else some (.error (place.field "template")
        (.invalidFormat "placeholder" name identifierPattern))
    if prompt.parameters.isEmpty then malformed
    else
      malformed ++
        (placeholders.filterMap fun name =>
          if prompt.parameters.contains name then none
          else some (.warning (place.field "template") (.unresolved prompt.name name))) ++
        prompt.parameters.zipIdx.filterMap fun (name, k) =>
          if placeholders.contains name then none
          else some (.info ((place.field "variables").item k)
            (.unused ("prompt '" ++ prompt.name ++ "'") name))) := by
  intro found
  unfold checkPrompt
  dsimp only
  by_cases h : prompt.parameters.isEmpty = true
  · rw [if_pos h, if_pos h]
    exact Check.Emits.each_unless _ found
  · rw [if_neg h, if_neg h]
    exact Check.Emits.after (.each_unless prompt.parameters.zipIdx)
      (Check.Emits.after (.each_unless _) (Check.Emits.each_unless _ found))

theorem emits_checkPrompts (agent : Agent) : (checkPrompts agent).Emits
    (agent.prompts.zipIdx.flatMap fun (prompt, i) => (checkPrompt prompt i).alone) :=
  .eachAt agent.prompts fun prompt i => (emits_checkPrompt prompt i).appends

theorem emits_checkBoundary (terms : List String) (agent : Agent) :
    (checkBoundary terms agent).Emits
      (let terms := (terms.map fun term => (term, Text.tokens term)).filter fun (_, words) =>
        !words.isEmpty
      if terms.isEmpty then []
      else
        (scannedTexts agent).flatMap fun (place, text) =>
          let words := Text.tokens text
          terms.filterMap fun (term, pattern) =>
            if Text.hasWindow pattern words then
              some (.warning place (.reservedTerm place.render term))
            else none) := by
  unfold checkBoundary
  refine .ite .nothing (.each (scannedTexts agent) fun p => ?_)
  refine .each_option _ fun q => ?_
  exact .pushIf?

theorem emits_checkType (place : Place) (fields : List (String × Json)) :
    (checkType place fields).Emits
      (match Json.field? "type" fields with
      | some value =>
        if isType value then []
        else [invalid (place.field "type") "schema type" value
          "a JSON Schema type name or a list of them"]
      | none => []) := by
  unfold checkType
  cases Json.field? "type" fields with
  | none => exact .nothing
  | some value => exact .pushUnless

theorem emits_checkRequired (place : Place) (fields : List (String × Json)) :
    (checkRequired place fields).Emits
      (match Json.field? "required" fields with
      | some (.array names) =>
        names.filterMap fun name =>
          match name with
          | .string key =>
            match propertyNames? fields with
            | some declared =>
              if declared.contains key then none
              else some (invalid (place.field "required") "required property" name
                "a declared property")
            | none => none
          | _ => some (invalid (place.field "required") "required property" name
              "a property name string")
      | some other => [invalid (place.field "required") "schema required" other
          "a list of property names"]
      | none => []) := by
  unfold checkRequired
  cases Json.field? "required" fields with
  | none => exact .nothing
  | some value =>
    cases value with
    | array names =>
      refine .each_option names fun name => ?_
      cases name with
      | string key =>
        dsimp only
        cases propertyNames? fields with
        | none => exact .nothing
        | some declared => exact .pushUnless?
      | _ => exact .push _
    | _ => exact .push _

theorem emits_checkReference (root : Json) (place : Place) (fields : List (String × Json)) :
    (checkReference root place fields).Emits
      (match Json.field? "$ref" fields with
      | some (.string target) =>
        match target.toList with
        | '#' :: pointer =>
          if (root.pointer? pointer).isSome then []
          else [invalid (place.field "$ref") "schema $ref" (.string target)
            "a pointer into this schema"]
        | _ => []
      | some other => [invalid (place.field "$ref") "schema $ref" other "a reference string"]
      | none => []) := by
  unfold checkReference
  cases Json.field? "$ref" fields with
  | none => exact .nothing
  | some value =>
    cases value with
    | string target =>
      dsimp only
      cases target.toList with
      | nil => exact .nothing
      | cons c pointer =>
        by_cases hc : c = '#'
        · subst hc
          exact .pushUnless
        · have hno : ∀ rest, c :: pointer = '#' :: rest → False := fun _ h => hc (List.cons.inj h).1
          simp only
          exact .nothing
    | _ => exact .push _

end Rule

end AgentSpec
