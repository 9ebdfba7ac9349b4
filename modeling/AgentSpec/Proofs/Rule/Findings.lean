import AgentSpec.Proofs.Rule.Laws

/-! What each rule finds in an agent, and where: no rule finds anything else. -/
namespace AgentSpec

namespace Agent

variable (agent : Agent)

/-- A name that stands at a place, with the kind of entity that bears it. -/
inductive NameAt : Place → String → String → Prop
  | agent : NameAt (.top "name") "agent name" agent.name
  | workflow {i : Nat} {w : Workflow} (h : agent.workflows[i]? = some w) :
      NameAt ((Place.entry "workflows" i).field "name") "workflow name" w.name
  | node {i j : Nat} {w : Workflow} {node : Node} (h : agent.workflows[i]? = some w)
      (hn : w.nodes[j]? = some node) : NameAt ((Place.node i j).field "name") "node name" node.name
  | module {i : Nat} {m : Capability} (h : agent.modules[i]? = some m) :
      NameAt ((Place.entry "modules" i).field "name") "module name" m.name
  | prompt {i : Nat} {prompt : Prompt} (h : agent.prompts[i]? = some prompt) :
      NameAt ((Place.entry "prompts" i).field "name") "prompt name" prompt.name
  | tool {i : Nat} {tool : Capability} (h : agent.tools[i]? = some tool) :
      NameAt ((Place.entry "tools" i).field "name") "tool name" tool.name

/-- The names in one of the collections of an agent. -/
inductive NamesIn : String → List String → Prop
  | workflows : NamesIn "workflows" (agent.workflows.map (·.name))
  | modules : NamesIn "modules" (agent.modules.map (·.name))
  | prompts : NamesIn "prompts" (agent.prompts.map (·.name))
  | tools : NamesIn "tools" (agent.tools.map (·.name))

/-- A module or a tool at its place. -/
inductive CapabilityAt : Place → Capability → Prop
  | module {i : Nat} {m : Capability} (h : agent.modules[i]? = some m) :
      CapabilityAt (.entry "modules" i) m
  | tool {i : Nat} {tool : Capability} (h : agent.tools[i]? = some tool) :
      CapabilityAt (.entry "tools" i) tool

/-- A schema of the agent itself, of a module or of a tool, at its place. -/
inductive SchemaAt : Place → Schema → Prop
  | input {schema : Schema} (h : agent.inputSchema = some schema) :
      SchemaAt (.top "input_schema") schema
  | output {schema : Schema} (h : agent.outputSchema = some schema) :
      SchemaAt (.top "output_schema") schema
  | partInput {place : Place} {c : Capability} {schema : Schema} (hc : agent.CapabilityAt place c)
      (h : c.inputSchema = some schema) : SchemaAt (place.field "input_schema") schema
  | partOutput {place : Place} {c : Capability} {schema : Schema} (hc : agent.CapabilityAt place c)
      (h : c.outputSchema = some schema) : SchemaAt (place.field "output_schema") schema

/-- Some node that runs no workflow refers to the name. -/
def Uses (name : String) : Prop :=
  ∃ w ∈ agent.workflows, ∃ node ∈ w.nodes, node.kind ≠ .subworkflow ∧ node.reference = some name

end Agent

namespace Rule

/-- What a rule finds in an agent. -/
inductive Finds (terms : List String) (agent : Agent) : Rule → Finding → Prop
  | misnamed {place : Place} {field name : String} (h : agent.NameAt place field name)
      (hi : ¬ Identifier name) :
      Finds terms agent .naming (.error place (.invalidFormat field name identifierPattern))
  | misversioned (h : ¬ ∃ v : Version, v.Proper ∧ agent.version = v.render) :
      Finds terms agent .version
        (.error (.top "version") (.invalidFormat "version" agent.version versionPattern))
  | repeatedName {collection name : String} {names : List String}
      (h : agent.NamesIn collection names) (hn : 1 < names.count name) :
      Finds terms agent .uniqueness (.error (.top collection)
        (.duplicate (collection ++ " of agent '" ++ agent.name ++ "'") name))
  | repeatedNode {i : Nat} {w : Workflow} {name : String} (h : agent.workflows[i]? = some w)
      (hn : 1 < (w.nodes.map (·.name)).count name) :
      Finds terms agent .uniqueness (.error ((Place.entry "workflows" i).field "nodes")
        (.duplicate ("nodes of workflow '" ++ w.name ++ "'") name))
  | noWorkflows (h : agent.workflows = []) :
      Finds terms agent .emptyCollections (.warning (.top "workflows")
        (.emptyCollection "workflows" ("agent '" ++ agent.name ++ "'")))
  | noNodes {i : Nat} {w : Workflow} (h : agent.workflows[i]? = some w) (hn : w.nodes = []) :
      Finds terms agent .emptyCollections (.warning ((Place.entry "workflows" i).field "nodes")
        (.emptyCollection "nodes" ("workflow '" ++ w.name ++ "'")))
  | lostEntry {i : Nat} {w : Workflow} (h : agent.workflows[i]? = some w)
      (hl : ¬ w.Declares w.entryNode) :
      Finds terms agent .references (.error ((Place.entry "workflows" i).field "entry_node")
        (.unresolved w.name w.entryNode))
  | lostDependency {i j k : Nat} {w : Workflow} {node : Node} {name : String}
      (h : agent.workflows[i]? = some w) (hn : w.nodes[j]? = some node)
      (hd : node.dependsOn[k]? = some name) (hl : ¬ w.Declares name) :
      Finds terms agent .references (.error (((Place.node i j).field "depends_on").item k)
        (.unresolved node.name name))
  | lostReference {i j : Nat} {w : Workflow} {node : Node} {target : String}
      (h : agent.workflows[i]? = some w) (hn : w.nodes[j]? = some node)
      (hr : node.reference = some target) (hl : ¬ agent.Offers node.kind target) :
      Finds terms agent .references (.error ((Place.node i j).field "reference")
        (.unresolved node.name target))
  | unused {place : Place} {c : Capability} (h : agent.CapabilityAt place c)
      (hu : ¬ agent.Uses c.name) :
      Finds terms agent .unused (.info place (.unused ("agent '" ++ agent.name ++ "'") c.name))
  | nodeCycle {i : Nat} {w : Workflow} {path : List Nat} (h : agent.workflows[i]? = some w)
      (hp : path ∈ (Graph.ofWorkflow w).cycles) :
      Finds terms agent .cycles (.error ((Place.entry "workflows" i).field "nodes")
        (.cycle w.name ((Graph.ofWorkflow w).pathNames path)))
  | callCycle {path : List Nat} (hp : path ∈ (callGraph agent).cycles) :
      Finds terms agent .cycles (.error (.top "workflows")
        (.cycle (((callGraph agent).pathNames path).headD "") ((callGraph agent).pathNames path)))
  | stranded {i j : Nat} {w : Workflow} {node : Node} (h : agent.workflows[i]? = some w)
      (hs : w.Strands node.name) (hj : FirstAt w.nodes j node) :
      Finds terms agent .reachability (.warning (.node i j) (.unreachable w.name node.name))
  | malformed {place route : Place} {schema : Schema} {part : Json} {f : Finding}
      (h : agent.SchemaAt place schema) (hp : schema.value.SchemaPart route part)
      (hf : f ∈ ownFindings schema.value (place ++ route) part) : Finds terms agent .schemas f
  | misnamedPlaceholder {i : Nat} {prompt : Prompt} {name : String}
      (h : agent.prompts[i]? = some prompt) (hm : prompt.Mentions name) (hi : ¬ Identifier name) :
      Finds terms agent .prompts (.error ((Place.entry "prompts" i).field "template")
        (.invalidFormat "placeholder" name identifierPattern))
  | undeclaredPlaceholder {i : Nat} {prompt : Prompt} {name : String}
      (h : agent.prompts[i]? = some prompt) (hp : prompt.parameters ≠ [])
      (hm : prompt.Mentions name) (hn : name ∉ prompt.parameters) :
      Finds terms agent .prompts (.warning ((Place.entry "prompts" i).field "template")
        (.unresolved prompt.name name))
  | unusedParameter {i k : Nat} {prompt : Prompt} {name : String}
      (h : agent.prompts[i]? = some prompt) (hk : prompt.parameters[k]? = some name)
      (hn : ¬ prompt.Mentions name) :
      Finds terms agent .prompts (.info (((Place.entry "prompts" i).field "variables").item k)
        (.unused ("prompt '" ++ prompt.name ++ "'") name))
  | reservedTerm {there : Place} {text term : String} (ht : agent.TextAt there text)
      (hm : term ∈ terms) (hc : Text.Contains text term) :
      Finds terms agent .boundary (.warning there (.reservedTerm there.render term))

variable {terms : List String} {agent : Agent} {f : Finding}

theorem mem_names {place : Place} {field name : String} :
    ⟨place, field, name⟩ ∈ names agent ↔ agent.NameAt place field name := by
  unfold names
  simp only [List.cons_append, List.mem_cons, List.mem_append, List.mem_flatMap, List.mem_map,
    Prod.exists, List.mem_zipIdx_iff_getElem?, NamedPlace.mk.injEq]
  constructor
  · intro h
    rcases h with ⟨rfl, rfl, rfl⟩ | (((⟨w, i, hw, ⟨rfl, rfl, rfl⟩ | ⟨node, j, hn, rfl, rfl, rfl⟩⟩ |
      ⟨m, i, hm, rfl, rfl, rfl⟩) | ⟨prompt, i, hp, rfl, rfl, rfl⟩) | ⟨tool, i, ht, rfl, rfl, rfl⟩)
    · exact .agent
    · exact .workflow hw
    · exact .node hw hn
    · exact .module hm
    · exact .prompt hp
    · exact .tool ht
  · intro h
    cases h with
    | agent => exact .inl ⟨rfl, rfl, rfl⟩
    | workflow hw => exact .inr (.inl (.inl (.inl ⟨_, _, hw, .inl ⟨rfl, rfl, rfl⟩⟩)))
    | node hw hn =>
      exact .inr (.inl (.inl (.inl ⟨_, _, hw, .inr ⟨_, _, hn, rfl, rfl, rfl⟩⟩)))
    | module hm => exact .inr (.inl (.inl (.inr ⟨_, _, hm, rfl, rfl, rfl⟩)))
    | prompt hp => exact .inr (.inl (.inr ⟨_, _, hp, rfl, rfl, rfl⟩))
    | tool ht => exact .inr (.inr ⟨_, _, ht, rfl, rfl, rfl⟩)

/-- An element that does not pass a test makes a finding. -/
theorem mem_filterMap_unless {α : Type} {l : List α} {p : α → Bool} {g : α → Finding} :
    f ∈ (l.filterMap fun a => if p a then none else some (g a)) ↔
      ∃ a ∈ l, ¬ p a = true ∧ f = g a := by
  rw [List.mem_filterMap]
  refine exists_congr fun a => and_congr_right fun _ => ?_
  by_cases h : p a = true <;> simp [h, eq_comm]

theorem mem_namingFindings : f ∈ namingFindings agent ↔ Finds terms agent .naming f := by
  rw [namingFindings, (emits_checkNames agent).alone_eq]
  refine mem_filterMap_unless.trans ?_
  constructor
  · intro h
    obtain ⟨⟨place, field, name⟩, hm, hi, rfl⟩ := h
    rw [isIdentifier_iff] at hi
    exact .misnamed (mem_names.1 hm) hi
  · intro h
    cases h with
    | misnamed h hi =>
      rw [← isIdentifier_iff] at hi
      exact ⟨_, mem_names.2 h, hi, rfl⟩

theorem mem_versionFindings : f ∈ versionFindings agent ↔ Finds terms agent .version f := by
  have hproper : (∃ v, Version.parse agent.version = .ok v) ↔
      ∃ v : Version, v.Proper ∧ agent.version = v.render :=
    exists_congr fun v => Version.parse_eq_ok_iff.trans and_comm
  rw [versionFindings, (emits_checkVersion agent).alone_eq]
  cases hv : Version.parse agent.version with
  | ok v =>
    refine iff_of_false List.not_mem_nil fun h => ?_
    cases h with
    | misversioned h => exact h (hproper.1 ⟨v, hv⟩)
  | error e =>
    rw [List.mem_singleton]
    constructor
    · rintro rfl
      refine .misversioned fun h => ?_
      obtain ⟨v, hok⟩ := hproper.2 h
      rw [hv] at hok
      cases hok
    · intro h
      cases h
      rfl

theorem mem_checkRepetitions {scope : String} {place : Place} {names : List String} :
    f ∈ (checkRepetitions scope place names).alone ↔
      ∃ name, 1 < names.count name ∧ f = .error place (.duplicate scope name) := by
  have hr : ∀ name, name ∈ repeated names ↔ 1 < names.count name := by
    intro name
    rw [repeated_eq, List.mem_filter, Array.mem_toList_iff, NameTable.mem_names_ofList,
      decide_eq_true_eq, and_iff_right_iff_imp]
    intro h
    exact List.count_pos_iff.1 (by omega)
  simp only [(emits_checkRepetitions scope place names).alone_eq, List.mem_map, hr, eq_comm]

theorem mem_uniquenessFindings :
    f ∈ uniquenessFindings agent ↔ Finds terms agent .uniqueness f := by
  rw [uniquenessFindings, (emits_checkUniqueness agent).alone_eq]
  simp only [List.mem_append, List.mem_flatMap, Prod.exists, List.mem_zipIdx_iff_getElem?,
    mem_checkRepetitions, or_assoc]
  constructor
  · intro h
    rcases h with ⟨name, hn, rfl⟩ | ⟨name, hn, rfl⟩ | ⟨name, hn, rfl⟩ | ⟨name, hn, rfl⟩ |
      ⟨w, i, hw, name, hn, rfl⟩
    · exact .repeatedName .workflows hn
    · exact .repeatedName .modules hn
    · exact .repeatedName .prompts hn
    · exact .repeatedName .tools hn
    · exact .repeatedNode hw hn
  · intro h
    cases h with
    | repeatedName h hn =>
      cases h with
      | workflows => exact .inl ⟨_, hn, rfl⟩
      | modules => exact .inr (.inl ⟨_, hn, rfl⟩)
      | prompts => exact .inr (.inr (.inl ⟨_, hn, rfl⟩))
      | tools => exact .inr (.inr (.inr (.inl ⟨_, hn, rfl⟩)))
    | repeatedNode hw hn => exact .inr (.inr (.inr (.inr ⟨_, _, hw, _, hn, rfl⟩)))

theorem mem_emptinessFindings :
    f ∈ emptinessFindings agent ↔ Finds terms agent .emptyCollections f := by
  rw [emptinessFindings, (emits_checkEmptiness agent).alone_eq]
  simp only [List.mem_append, List.mem_flatMap, Prod.exists, List.mem_zipIdx_iff_getElem?,
    List.mem_ite_nil_right, List.mem_singleton, List.isEmpty_iff]
  constructor
  · intro h
    rcases h with ⟨hw, rfl⟩ | ⟨w, i, hw, hn, rfl⟩
    · exact .noWorkflows hw
    · exact .noNodes hw hn
  · intro h
    cases h with
    | noWorkflows hw => exact .inl ⟨hw, rfl⟩
    | noNodes hw hn => exact .inr ⟨_, _, hw, hn, rfl⟩

theorem mem_checkNodeReference {place : Place} {node : Node} :
    f ∈ (checkNodeReference (Targets.ofAgent agent) place node).alone ↔ ∃ target,
      node.reference = some target ∧ ¬ agent.Offers node.kind target ∧
        f = .error (place.field "reference") (.unresolved node.name target) := by
  rw [(emits_checkNodeReference (Targets.ofAgent agent) place node).alone_eq]
  cases node.reference with
  | none => simp
  | some target =>
    simp only [List.mem_ite_nil_left, resolves_iff, List.mem_singleton, Option.some.injEq,
      exists_eq_left']

theorem mem_referenceFindings :
    f ∈ referenceFindings agent ↔ Finds terms agent .references f := by
  rw [referenceFindings, (emits_checkReferences agent).alone_eq]
  simp only [(emits_checkNodeReferences _ _ _ _).alone_eq, List.mem_append, List.mem_flatMap,
    Prod.exists, List.mem_zipIdx_iff_getElem?, List.mem_ite_nil_left, contains_names,
    List.mem_singleton, mem_filterMap_unless, mem_checkNodeReference]
  constructor
  · intro h
    rcases h with ⟨w, i, hw, ⟨hl, rfl⟩ | ⟨node, j, hn, ⟨name, k, hd, hl, rfl⟩ |
      ⟨target, hr, hl, rfl⟩⟩⟩
    · exact .lostEntry hw hl
    · exact .lostDependency hw hn hd hl
    · exact .lostReference hw hn hr hl
  · intro h
    cases h with
    | lostEntry hw hl => exact ⟨_, _, hw, .inl ⟨hl, rfl⟩⟩
    | lostDependency hw hn hd hl =>
      exact ⟨_, _, hw, .inr ⟨_, _, hn, .inl ⟨_, _, hd, hl, rfl⟩⟩⟩
    | lostReference hw hn hr hl => exact ⟨_, _, hw, .inr ⟨_, _, hn, .inr ⟨_, hr, hl, rfl⟩⟩⟩

theorem mem_usedNames {name : String} : name ∈ usedNames agent ↔ agent.Uses name := by
  simp only [usedNames, List.mem_flatMap, List.mem_filterMap, Option.ite_none_left_eq_some,
    Agent.Uses, ne_eq]

theorem mem_usageFindings : f ∈ usageFindings agent ↔ Finds terms agent .unused f := by
  rw [usageFindings, (emits_checkUsage agent).alone_eq]
  simp only [List.mem_append, mem_filterMap_unless, Prod.exists, List.mem_zipIdx_iff_getElem?,
    NameTable.contains_ofList, mem_usedNames]
  constructor
  · intro h
    rcases h with ⟨m, i, hm, hu, rfl⟩ | ⟨tool, i, ht, hu, rfl⟩
    · exact .unused (.module hm) hu
    · exact .unused (.tool ht) hu
  · intro h
    cases h with
    | unused hc hu =>
      cases hc with
      | module hm => exact .inl ⟨_, _, hm, hu, rfl⟩
      | tool ht => exact .inr ⟨_, _, ht, hu, rfl⟩

theorem mem_cycleFindings : f ∈ cycleFindings agent ↔ Finds terms agent .cycles f := by
  rw [cycleFindings, (emits_checkCycles agent).alone_eq]
  simp only [List.mem_append, List.mem_flatMap, List.mem_map, Prod.exists,
    List.mem_zipIdx_iff_getElem?]
  constructor
  · intro h
    rcases h with ⟨w, i, hw, path, hp, rfl⟩ | ⟨path, hp, rfl⟩
    · exact .nodeCycle hw hp
    · exact .callCycle hp
  · intro h
    cases h with
    | nodeCycle hw hp => exact .inl ⟨_, _, hw, _, hp, rfl⟩
    | callCycle hp => exact .inr ⟨_, hp, rfl⟩

/-- The keywords of a schema that a complaint can be about. -/
def schemaKeywords : List String :=
  ["type", "properties", "required", "$ref", "definitions", "$defs"]

/-- What can be wrong with a part of a schema, and what is expected instead. -/
def schemaComplaints : List (String × String) :=
  [("schema", "a JSON Schema object"),
   ("schema type", "a JSON Schema type name or a list of them"),
   ("schema properties", "an object of property schemas"),
   ("schema definitions", "an object of named schemas"),
   ("schema required", "a list of property names"),
   ("required property", "a property name string"),
   ("required property", "a declared property"),
   ("schema $ref", "a reference string"),
   ("schema $ref", "a pointer into this schema")]

/-- The finding complains about a part of a schema or about one of its keywords. -/
def ComplainsOf (place : Place) (f : Finding) : Prop :=
  ∃ there field value expected,
    (there = place ∨ ∃ keyword ∈ schemaKeywords, there = place.field keyword) ∧
      (field, expected) ∈ schemaComplaints ∧ f = invalid there field value expected

theorem complainsOf_keyword {place : Place} {keyword field expected : String} {value : Json}
    (hk : keyword ∈ schemaKeywords) (hc : (field, expected) ∈ schemaComplaints) :
    ComplainsOf place (invalid (place.field keyword) field value expected) :=
  ⟨_, field, value, expected, .inr ⟨keyword, hk, rfl⟩, hc, rfl⟩

theorem complainsOf_of_mem_checkType {place : Place} {fields : List (String × Json)}
    (h : f ∈ (checkType place fields).alone) : ComplainsOf place f := by
  rw [(emits_checkType place fields).alone_eq] at h
  split at h
  · rw [List.mem_ite_nil_left, List.mem_singleton] at h
    rw [h.2]
    exact complainsOf_keyword (by decide) (by decide)
  · cases h

theorem complainsOf_of_mem_checkRequired {place : Place} {fields : List (String × Json)}
    (h : f ∈ (checkRequired place fields).alone) : ComplainsOf place f := by
  rw [(emits_checkRequired place fields).alone_eq] at h
  split at h
  · obtain ⟨name, -, hf⟩ := List.mem_filterMap.1 h
    split at hf
    · split at hf
      · rw [Option.ite_none_left_eq_some, Option.some.injEq] at hf
        rw [← hf.2]
        exact complainsOf_keyword (by decide) (by decide)
      · cases hf
    · rw [← Option.some.inj hf]
      exact complainsOf_keyword (by decide) (by decide)
  · rw [List.mem_singleton.1 h]
    exact complainsOf_keyword (by decide) (by decide)
  · cases h

theorem complainsOf_of_mem_checkReference {root : Json} {place : Place}
    {fields : List (String × Json)} (h : f ∈ (checkReference root place fields).alone) :
    ComplainsOf place f := by
  rw [(emits_checkReference root place fields).alone_eq] at h
  split at h
  · split at h
    · rw [List.mem_ite_nil_left, List.mem_singleton] at h
      rw [h.2]
      exact complainsOf_keyword (by decide) (by decide)
    · cases h
  · rw [List.mem_singleton.1 h]
    exact complainsOf_keyword (by decide) (by decide)
  · cases h

theorem complainsOf_of_mem_checkShape {place : Place} {fields : List (String × Json)}
    {keyword field expected : String} (hk : keyword ∈ schemaKeywords)
    (hc : (field, expected) ∈ schemaComplaints)
    (h : f ∈ checkShape place fields keyword field expected) : ComplainsOf place f := by
  unfold checkShape at h
  split at h
  · cases h
  · rw [List.mem_singleton.1 h]
    exact complainsOf_keyword hk hc
  · cases h

theorem complainsOf_of_mem_ownFindings {root : Json} {place : Place} {part : Json}
    (h : f ∈ ownFindings root place part) : ComplainsOf place f := by
  cases part with
  | object fields =>
    simp only [ownFindings, List.mem_append, or_assoc] at h
    rcases h with h | h | h | h | h | h
    · exact complainsOf_of_mem_checkType h
    · exact complainsOf_of_mem_checkRequired h
    · exact complainsOf_of_mem_checkReference h
    · exact complainsOf_of_mem_checkShape (by decide) (by decide) h
    · exact complainsOf_of_mem_checkShape (by decide) (by decide) h
    · exact complainsOf_of_mem_checkShape (by decide) (by decide) h
  | _ => exact ⟨place, _, _, _, .inl rfl, by decide, List.mem_singleton.1 h⟩

theorem mem_checkOptional {place : Place} {schema : Option Schema} :
    f ∈ (checkOptional place schema).alone ↔ ∃ found : Schema, schema = some found ∧
      ∃ route part, found.value.SchemaPart route part ∧
        f ∈ ownFindings found.value (place ++ route) part := by
  rw [(emits_checkOptional place schema).alone_eq]
  cases schema with
  | none => simp
  | some found => simp [mem_checkSchema]

theorem mem_schemaFindings : f ∈ schemaFindings agent ↔ Finds terms agent .schemas f := by
  rw [schemaFindings, (emits_checkSchemas agent).alone_eq]
  simp only [(emits_checkBoth _ _ _).alone_eq, List.mem_append, List.mem_flatMap, Prod.exists,
    List.mem_zipIdx_iff_getElem?, mem_checkOptional]
  constructor
  · intro h
    rcases h with ((⟨schema, hs, route, part, hp, hf⟩ | ⟨schema, hs, route, part, hp, hf⟩) |
      ⟨m, i, hm, ⟨schema, hs, route, part, hp, hf⟩ | ⟨schema, hs, route, part, hp, hf⟩⟩) |
      ⟨tool, i, ht, ⟨schema, hs, route, part, hp, hf⟩ | ⟨schema, hs, route, part, hp, hf⟩⟩
    · exact .malformed (.input hs) hp hf
    · exact .malformed (.output hs) hp hf
    · exact .malformed (.partInput (.module hm) hs) hp hf
    · exact .malformed (.partOutput (.module hm) hs) hp hf
    · exact .malformed (.partInput (.tool ht) hs) hp hf
    · exact .malformed (.partOutput (.tool ht) hs) hp hf
  · intro h
    cases h with
    | malformed h hp hf =>
      cases h with
      | input hs => exact .inl (.inl (.inl ⟨_, hs, _, _, hp, hf⟩))
      | output hs => exact .inl (.inl (.inr ⟨_, hs, _, _, hp, hf⟩))
      | partInput hc hs =>
        cases hc with
        | module hm => exact .inl (.inr ⟨_, _, hm, .inl ⟨_, hs, _, _, hp, hf⟩⟩)
        | tool ht => exact .inr ⟨_, _, ht, .inl ⟨_, hs, _, _, hp, hf⟩⟩
      | partOutput hc hs =>
        cases hc with
        | module hm => exact .inl (.inr ⟨_, _, hm, .inr ⟨_, hs, _, _, hp, hf⟩⟩)
        | tool ht => exact .inr ⟨_, _, ht, .inr ⟨_, hs, _, _, hp, hf⟩⟩

theorem mem_checkPrompt {prompt : Prompt} {i : Nat} : f ∈ (checkPrompt prompt i).alone ↔
    (∃ name, prompt.Mentions name ∧ ¬ Identifier name ∧
      f = .error ((Place.entry "prompts" i).field "template")
        (.invalidFormat "placeholder" name identifierPattern)) ∨
    prompt.parameters ≠ [] ∧
      ((∃ name, prompt.Mentions name ∧ name ∉ prompt.parameters ∧
        f = .warning ((Place.entry "prompts" i).field "template")
          (.unresolved prompt.name name)) ∨
      ∃ name k, prompt.parameters[k]? = some name ∧ ¬ prompt.Mentions name ∧
        f = .info (((Place.entry "prompts" i).field "variables").item k)
          (.unused ("prompt '" ++ prompt.name ++ "'") name)) := by
  have hmentions : ∀ name, name ∈ Template.placeholders prompt.template ↔ prompt.Mentions name :=
    fun name => Template.mem_placeholders_iff
  rw [(emits_checkPrompt prompt i).alone_eq]
  dsimp only
  split
  · rename_i hempty
    rw [List.isEmpty_iff] at hempty
    simp only [mem_filterMap_unless, hmentions, isIdentifier_iff, hempty, ne_eq,
      not_true_eq_false, false_and, or_false]
  · rename_i hempty
    rw [List.isEmpty_iff] at hempty
    rw [List.mem_append, List.mem_append, mem_filterMap_unless, mem_filterMap_unless,
      mem_filterMap_unless]
    simp only [Prod.exists, List.mem_zipIdx_iff_getElem?, hmentions, isIdentifier_iff,
      List.contains_iff_mem, ne_eq, hempty, not_false_eq_true, true_and, or_assoc]

theorem mem_promptFindings : f ∈ promptFindings agent ↔ Finds terms agent .prompts f := by
  rw [promptFindings, (emits_checkPrompts agent).alone_eq]
  simp only [List.mem_flatMap, Prod.exists, List.mem_zipIdx_iff_getElem?,
    mem_checkPrompt]
  constructor
  · intro h
    obtain ⟨prompt, i, hp, ⟨name, hm, hi, rfl⟩ | ⟨hne, ⟨name, hm, hn, rfl⟩ |
      ⟨name, k, hk, hn, rfl⟩⟩⟩ := h
    · exact .misnamedPlaceholder hp hm hi
    · exact .undeclaredPlaceholder hp hne hm hn
    · exact .unusedParameter hp hk hn
  · intro h
    cases h with
    | misnamedPlaceholder hp hm hi => exact ⟨_, _, hp, .inl ⟨_, hm, hi, rfl⟩⟩
    | undeclaredPlaceholder hp hne hm hn =>
      exact ⟨_, _, hp, .inr ⟨hne, .inl ⟨_, hm, hn, rfl⟩⟩⟩
    | unusedParameter hp hk hn =>
      have hne := List.ne_nil_of_mem (List.mem_of_getElem? hk)
      exact ⟨_, _, hp, .inr ⟨hne, .inr ⟨_, _, hk, hn, rfl⟩⟩⟩

/-- What a rule reports is what it finds. -/
theorem mem_check_iff {rule : Rule} : f ∈ rule.check terms agent ↔ Finds terms agent rule f := by
  cases rule with
  | naming => exact mem_namingFindings
  | version => exact mem_versionFindings
  | uniqueness => exact mem_uniquenessFindings
  | emptyCollections => exact mem_emptinessFindings
  | references => exact mem_referenceFindings
  | unused => exact mem_usageFindings
  | cycles => exact mem_cycleFindings
  | reachability =>
    refine mem_reachabilityFindings.trans ?_
    constructor
    · intro h
      obtain ⟨i, w, j, node, hw, hs, hj, rfl⟩ := h
      exact .stranded hw hs hj
    · intro h
      cases h with
      | stranded hw hs hj => exact ⟨_, _, _, _, hw, hs, hj, rfl⟩
  | schemas => exact mem_schemaFindings
  | prompts => exact mem_promptFindings
  | boundary =>
    refine mem_boundaryFindings.trans ?_
    constructor
    · intro h
      obtain ⟨there, text, term, ht, hm, hc, rfl⟩ := h
      exact .reservedTerm ht hm hc
    · intro h
      cases h with
      | reservedTerm ht hm hc => exact ⟨_, _, _, ht, hm, hc, rfl⟩

end Rule

theorem RuleEngine.mem_validate {engine : RuleEngine} {agent : Agent} {f : Finding} :
    f ∈ (engine.validate agent).findings ↔
      ∃ rule ∈ engine.rules, Rule.Finds engine.terms agent rule f := by
  simp only [findings_validate, List.mem_flatMap, Rule.mem_check_iff]

end AgentSpec
