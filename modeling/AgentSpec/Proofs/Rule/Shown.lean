import AgentSpec.Proofs.Finding
import AgentSpec.Proofs.Json.Compact
import AgentSpec.Proofs.Rule.Findings

/-! The texts of an agent that findings show as they stand: all else in a finding is either fixed
or has no line breaks. -/
namespace AgentSpec

open Text

/-- The texts of an agent that findings show as they stand. -/
inductive Agent.Shows (agent : Agent) : String → Prop
  | name {place : Place} {field name : String} (h : agent.NameAt place field name) :
      Shows agent name
  | version : Shows agent agent.version
  | entryNode {w : Workflow} (hw : w ∈ agent.workflows) : Shows agent w.entryNode
  | dependency {w : Workflow} {node : Node} {name : String} (hw : w ∈ agent.workflows)
      (hn : node ∈ w.nodes) (hd : name ∈ node.dependsOn) : Shows agent name
  | reference {w : Workflow} {node : Node} {target : String} (hw : w ∈ agent.workflows)
      (hn : node ∈ w.nodes) (hr : node.reference = some target) : Shows agent target
  | parameter {prompt : Prompt} {name : String} (hp : prompt ∈ agent.prompts)
      (hn : name ∈ prompt.parameters) : Shows agent name
  | schemaKey {place route : Place} {schema : Schema} {part : Json} {key : String}
      (hs : agent.SchemaAt place schema) (hp : schema.value.SchemaPart route part)
      (hk : .field key ∈ route) : Shows agent key

variable {agent : Agent} {place there : Place} {text : String}

theorem Node.TextAt.oneLine {node : Node} (h : node.TextAt place there text)
    (hp : place.OneLine) : there.OneLine := by
  cases h <;> simp +decide [hp]

theorem Workflow.TextAt.oneLine {w : Workflow} {i : Nat} (h : w.TextAt i there text) :
    there.OneLine := by
  cases h with
  | node hn ht => exact ht.oneLine (Place.oneLine_node _ _)
  | _ => simp +decide

theorem Capability.TextAt.oneLine {c : Capability} (h : c.TextAt place there text)
    (hp : place.OneLine) : there.OneLine := by
  cases h <;> simp +decide [hp]

theorem Prompt.TextAt.oneLine {prompt : Prompt} (h : prompt.TextAt place there text)
    (hp : place.OneLine) : there.OneLine := by
  cases h <;> simp +decide [hp]

theorem Criteria.TextAt.oneLine {criteria : Criteria} (h : criteria.TextAt place there text)
    (hp : place.OneLine) : there.OneLine := by
  cases h <;> simp +decide [hp]

theorem Agent.TextAt.oneLine (h : agent.TextAt there text) : there.OneLine := by
  cases h with
  | criteria h ht => exact ht.oneLine (by simp +decide)
  | workflow h ht => exact ht.oneLine
  | module h ht => exact ht.oneLine (by simp +decide)
  | prompt h ht => exact ht.oneLine (by simp +decide)
  | tool h ht => exact ht.oneLine (by simp +decide)
  | _ => simp +decide

theorem Agent.NameAt.oneLine {field name : String} (h : agent.NameAt place field name) :
    place.OneLine := by
  cases h <;> simp +decide

theorem Agent.NameAt.singleLine_field {field name : String} (h : agent.NameAt place field name) :
    SingleLine field := by
  cases h <;> decide

theorem Agent.CapabilityAt.oneLine {c : Capability} (h : agent.CapabilityAt place c) :
    place.OneLine := by
  cases h <;> simp +decide

theorem Agent.SchemaAt.oneLine {schema : Schema} (h : agent.SchemaAt place schema) :
    place.OneLine := by
  cases h with
  | partInput hc h => simp +decide [hc.oneLine]
  | partOutput hc h => simp +decide [hc.oneLine]
  | _ => simp +decide

theorem Agent.CapabilityAt.shows {c : Capability} (h : agent.CapabilityAt place c) :
    agent.Shows c.name := by
  cases h with
  | module hm => exact .name (.module hm)
  | tool ht => exact .name (.tool ht)

theorem exists_getElem?_of_mem_map {α β : Type} {f : α → β} {items : List α} {b : β}
    (h : b ∈ items.map f) : ∃ (i : Nat) (item : α), items[i]? = some item ∧ f item = b := by
  obtain ⟨item, hm, rfl⟩ := List.mem_map.1 h
  obtain ⟨i, hi⟩ := List.mem_iff_getElem?.1 hm
  exact ⟨i, item, hi, rfl⟩

theorem Agent.NamesIn.shows {collection name : String} {names : List String}
    (h : agent.NamesIn collection names) (hn : name ∈ names) : agent.Shows name := by
  cases h with
  | workflows =>
    obtain ⟨i, w, hw, rfl⟩ := exists_getElem?_of_mem_map hn
    exact .name (.workflow hw)
  | modules =>
    obtain ⟨i, m, hm, rfl⟩ := exists_getElem?_of_mem_map hn
    exact .name (.module hm)
  | prompts =>
    obtain ⟨i, prompt, hp, rfl⟩ := exists_getElem?_of_mem_map hn
    exact .name (.prompt hp)
  | tools =>
    obtain ⟨i, tool, ht, rfl⟩ := exists_getElem?_of_mem_map hn
    exact .name (.tool ht)

theorem Agent.NamesIn.singleLine {collection : String} {names : List String}
    (h : agent.NamesIn collection names) : SingleLine collection := by
  cases h <;> decide

theorem Identifier.singleLine {name : String} (h : Identifier name) : SingleLine name := by
  intro hb
  obtain ⟨first, rest, hs, hfirst, hrest⟩ := h
  rw [hs] at hb
  rcases List.mem_cons.1 hb with rfl | hb
  · exact absurd (isIdentifierStart_iff.2 hfirst) (by decide)
  · exact absurd (isIdentifierPart_iff.2 (hrest _ hb)) (by decide)

/-- A placeholder holds no white space, so that it is on one line. -/
theorem Prompt.Mentions.singleLine {prompt : Prompt} {name : String} (h : prompt.Mentions name) :
    SingleLine name := by
  obtain ⟨before, behind, rest, -, ho⟩ := h
  exact fun hb => (ho.name_char _ hb).2.2 (by decide)

theorem Graph.singleLine_pathNames {names : List String} {edges : List Edge}
    (hn : ∀ name ∈ names, SingleLine name) (path : List Nat) :
    ∀ name ∈ (ofEdges names edges).pathNames path, SingleLine name := by
  intro name h
  obtain ⟨i, -, rfl⟩ := List.mem_map.1 h
  rw [table_ofEdges, NameTable.name, Array.getD_eq_getD_getElem?]
  cases hi : (NameTable.ofList names).names[i]? with
  | none => decide
  | some found => exact hn _ (NameTable.mem_names_ofList.1 (Array.mem_of_getElem? hi))

namespace Rule

theorem singleLine_excerpt (value : Json) : SingleLine (excerpt value) := by
  have hc : SingleLine value.compact := value.singleLine_compact
  have ht : '\n' ∉ value.compact.toList.take 77 := fun h => hc (List.mem_of_mem_take h)
  unfold excerpt
  dsimp only
  split
  · simp +decide [ht]
  · exact hc

theorem singleLine_schemaComplaints {field expected : String}
    (h : (field, expected) ∈ schemaComplaints) : SingleLine field ∧ SingleLine expected := by
  have hall : ∀ complaint ∈ schemaComplaints,
      SingleLine complaint.1 ∧ SingleLine complaint.2 := by
    simp [schemaComplaints, SingleLine]
  exact hall _ h

theorem ComplainsOf.oneLine {f : Finding} (h : ComplainsOf place f) (hp : place.OneLine) :
    f.OneLine := by
  obtain ⟨there, field, value, expected, ht, hc, rfl⟩ := h
  obtain ⟨hfield, hexpected⟩ := singleLine_schemaComplaints hc
  have hkeywords : ∀ keyword ∈ schemaKeywords, SingleLine keyword := by decide
  refine ⟨?_, ?_⟩
  · rcases ht with rfl | ⟨keyword, hk, rfl⟩
    · exact hp
    · exact Place.oneLine_field.2 ⟨hp, hkeywords keyword hk⟩
  · simp [invalid, Finding.error, Defect.texts, hfield, hexpected, singleLine_excerpt]

/-- A finding spans more than one line only if a text that it shows or a reserved term does. -/
theorem Finds.oneLine {terms : List String} {rule : Rule} {f : Finding}
    (h : Finds terms agent rule f) (ha : ∀ text, agent.Shows text → SingleLine text)
    (ht : ∀ term ∈ terms, SingleLine term) : f.OneLine := by
  have hagent : SingleLine agent.name := ha _ (.name .agent)
  have hworkflow : ∀ {i : Nat} {w : Workflow}, agent.workflows[i]? = some w → SingleLine w.name :=
    fun h => ha _ (.name (.workflow h))
  have hnode : ∀ {i j : Nat} {w : Workflow} {node : Node}, agent.workflows[i]? = some w →
      w.nodes[j]? = some node → SingleLine node.name := fun h hn => ha _ (.name (.node h hn))
  have hprompt : ∀ {i : Nat} {prompt : Prompt}, agent.prompts[i]? = some prompt →
      SingleLine prompt.name := fun h => ha _ (.name (.prompt h))
  cases h with
  | misnamed h =>
    simp +decide [Defect.texts, h.oneLine, h.singleLine_field, ha _ (.name h)]
  | misversioned => simp +decide [Defect.texts, ha _ .version]
  | repeatedName h hn =>
    have hname := ha _ (h.shows (List.count_pos_iff.1 (Nat.zero_lt_of_lt hn)))
    simp +decide [Defect.texts, h.singleLine, hagent, hname]
  | repeatedNode h hn =>
    obtain ⟨j, node, hj, rfl⟩ :=
      exists_getElem?_of_mem_map (List.count_pos_iff.1 (Nat.zero_lt_of_lt hn))
    simp +decide [Defect.texts, hworkflow h, hnode h hj]
  | noWorkflows => simp +decide [Defect.texts, hagent]
  | noNodes h => simp +decide [Defect.texts, hworkflow h]
  | lostEntry h =>
    simp +decide [Defect.texts, hworkflow h, ha _ (.entryNode (List.mem_of_getElem? h))]
  | lostDependency h hn hd =>
    have hname := ha _ (.dependency (List.mem_of_getElem? h) (List.mem_of_getElem? hn)
      (List.mem_of_getElem? hd))
    simp +decide [Defect.texts, hnode h hn, hname]
  | lostReference h hn hr =>
    have htarget := ha _ (.reference (List.mem_of_getElem? h) (List.mem_of_getElem? hn) hr)
    simp +decide [Defect.texts, hnode h hn, htarget]
  | unused h => simp +decide [Defect.texts, h.oneLine, hagent, ha _ h.shows]
  | @nodeCycle i w path h =>
    have hnames : ∀ name ∈ w.nodes.map (·.name), SingleLine name := by
      intro name hm
      obtain ⟨j, node, hj, rfl⟩ := exists_getElem?_of_mem_map hm
      exact hnode h hj
    have hpath : ∀ name ∈ (Graph.ofWorkflow w).pathNames path, SingleLine name :=
      Graph.singleLine_pathNames hnames path
    exact Finding.oneLine_error.2 ⟨by simp +decide, List.forall_mem_cons.2 ⟨hworkflow h, hpath⟩⟩
  | @callCycle path =>
    have hpath : ∀ name ∈ (callGraph agent).pathNames path, SingleLine name :=
      Graph.singleLine_pathNames (fun name hm => ha name (Agent.NamesIn.workflows.shows hm)) path
    have hhead : SingleLine (((callGraph agent).pathNames path).headD "") := by
      cases hnames : (callGraph agent).pathNames path with
      | nil => decide
      | cons first rest => exact hpath first (by simp [hnames])
    exact Finding.oneLine_error.2 ⟨by simp +decide, List.forall_mem_cons.2 ⟨hhead, hpath⟩⟩
  | stranded h hs hj => simp +decide [Defect.texts, hworkflow h, hnode h hj.here]
  | malformed h hp hf =>
    refine (complainsOf_of_mem_ownFindings hf).oneLine (Place.oneLine_append.2 ⟨h.oneLine, ?_⟩)
    intro step hs
    cases step with
    | field key => exact ha _ (.schemaKey h hp hs)
    | item i => trivial
  | misnamedPlaceholder h hm => simp +decide [Defect.texts, hm.singleLine]
  | undeclaredPlaceholder h hp hm => simp +decide [Defect.texts, hm.singleLine, hprompt h]
  | unusedParameter h hk =>
    have hname := ha _ (.parameter (List.mem_of_getElem? h) (List.mem_of_getElem? hk))
    simp +decide [Defect.texts, hprompt h, hname]
  | reservedTerm h hm =>
    simp [Defect.texts, h.oneLine, Place.singleLine_render, ht _ hm]

end Rule

end AgentSpec
