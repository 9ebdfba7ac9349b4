import AgentSpec.Proofs.Rule.Findings
import AgentSpec.Proofs.Rule.Parts

/-! Findings stand where their culprits are: what a finding says is true of what its place leads
to. -/
namespace AgentSpec

/-- An entity as messages speak of it. -/
def quoted (kind name : String) : String := kind ++ " '" ++ name ++ "'"

namespace Agent

/-- An entity of that kind and name stands at the place. -/
def EntityAt (agent : Agent) (place : Place) (kind name : String) : Prop :=
  ∃ part, agent.part? place = some part ∧ part.entity? = some (kind, name)

/-- The text stands at the place. -/
def Reads (agent : Agent) (place : Place) (text : String) : Prop :=
  agent.part? place = some (.text text)

/-- A list of entities with those names stands at the place. -/
def ListsAt (agent : Agent) (place : Place) (names : List String) : Prop :=
  ∃ items, agent.part? place = some (.list items) ∧ items.filterMap Part.name? = names

/-- What a rule says in a finding at a place is true of what stands there. -/
def BearsOut (agent : Agent) (place : Place) : Rule → Defect → Prop
  | .naming, .invalidFormat field value _ =>
    agent.Reads place value ∧ ∃ owner kind, agent.EntityAt owner kind value ∧
      place = owner.field "name" ∧ field = kind ++ " name"
  | .version, .invalidFormat _ value _ => agent.Reads place value ∧ place = .top "version"
  | .uniqueness, .duplicate scope name =>
    ∃ names, agent.ListsAt place names ∧ 1 < names.count name ∧
      ∃ owner kind ownerName list, agent.EntityAt owner kind ownerName ∧
        place = owner.field list ∧ scope = list ++ " of " ++ quoted kind ownerName
  | .emptyCollections, .emptyCollection list parent =>
    agent.part? place = some (.list []) ∧ ∃ owner kind ownerName,
      agent.EntityAt owner kind ownerName ∧ place = owner.field list ∧
        parent = quoted kind ownerName
  | .references, .unresolved origin target =>
    agent.Reads place target ∧ ∃ owner,
      (agent.EntityAt owner "workflow" origin ∧ place = owner.field "entry_node") ∨
      (agent.EntityAt owner "node" origin ∧ (place = owner.field "reference" ∨
        ∃ k, place = (owner.field "depends_on").item k))
  | .unused, .unused owner name =>
    (agent.EntityAt place "module" name ∨ agent.EntityAt place "tool" name) ∧
      owner = quoted "agent" agent.name
  | .cycles, .cycle name path =>
    ∃ names, agent.ListsAt place names ∧ (∀ step ∈ path, step ∈ names) ∧
      ((∃ owner, agent.EntityAt owner "workflow" name ∧ place = owner.field "nodes") ∨
        (place = .top "workflows" ∧ path.head? = some name))
  | .reachability, .unreachable workflow name =>
    agent.EntityAt place "node" name ∧ ∃ i j, place = .node i j ∧
      agent.EntityAt (.entry "workflows" i) "workflow" workflow
  | .prompts, .invalidFormat field value _ =>
    field = "placeholder" ∧ ∃ owner name template, agent.EntityAt owner "prompt" name ∧
      place = owner.field "template" ∧ agent.Reads place template ∧
        Template.Occurs template.toList value.toList
  | .prompts, .unresolved origin name =>
    ∃ owner template, agent.EntityAt owner "prompt" origin ∧ place = owner.field "template" ∧
      agent.Reads place template ∧ Template.Occurs template.toList name.toList
  | .prompts, .unused owner name =>
    agent.Reads place name ∧ ∃ there promptName k, agent.EntityAt there "prompt" promptName ∧
      place = (there.field "variables").item k ∧ owner = quoted "prompt" promptName
  | .boundary, .reservedTerm location term =>
    location = place.render ∧ ∃ text, agent.Reads place text ∧ Text.Contains text term
  | _, _ => False

variable {agent : Agent} {place : Place}

theorem EntityAt.exists_part {kind name : String} (h : agent.EntityAt place kind name) :
    ∃ part, agent.part? place = some part := by
  obtain ⟨part, hp, -⟩ := h
  exact ⟨part, hp⟩

theorem ListsAt.exists_part {names : List String} (h : agent.ListsAt place names) :
    ∃ part, agent.part? place = some part := by
  obtain ⟨items, hp, -⟩ := h
  exact ⟨.list items, hp⟩

/-- What bears a finding out is there. -/
theorem BearsOut.exists_part {rule : Rule} {defect : Defect}
    (h : agent.BearsOut place rule defect) : ∃ part, agent.part? place = some part := by
  unfold BearsOut at h
  split at h
  · exact ⟨_, h.1⟩
  · exact ⟨_, h.1⟩
  · obtain ⟨names, hl, -⟩ := h
    exact hl.exists_part
  · exact ⟨_, h.1⟩
  · exact ⟨_, h.1⟩
  · exact h.1.elim EntityAt.exists_part EntityAt.exists_part
  · obtain ⟨names, hl, -⟩ := h
    exact hl.exists_part
  · exact h.1.exists_part
  · obtain ⟨-, owner, name, template, -, -, hr, -⟩ := h
    exact ⟨_, hr⟩
  · obtain ⟨owner, template, -, -, hr, -⟩ := h
    exact ⟨_, hr⟩
  · exact ⟨_, h.1⟩
  · obtain ⟨-, text, hr, -⟩ := h
    exact ⟨_, hr⟩
  · exact h.elim

theorem entityAt_agent : agent.EntityAt [] "agent" agent.name := ⟨.agent agent, rfl, rfl⟩

theorem entityAt_workflow {i : Nat} {w : Workflow} (h : agent.workflows[i]? = some w) :
    agent.EntityAt (.entry "workflows" i) "workflow" w.name := ⟨_, part?_workflow h, rfl⟩

theorem entityAt_node {i j : Nat} {w : Workflow} {node : Node} (h : agent.workflows[i]? = some w)
    (hn : w.nodes[j]? = some node) : agent.EntityAt (.node i j) "node" node.name :=
  ⟨_, part?_node h hn, rfl⟩

theorem entityAt_module {i : Nat} {m : Capability} (h : agent.modules[i]? = some m) :
    agent.EntityAt (.entry "modules" i) "module" m.name := ⟨_, part?_module h, rfl⟩

theorem entityAt_tool {i : Nat} {tool : Capability} (h : agent.tools[i]? = some tool) :
    agent.EntityAt (.entry "tools" i) "tool" tool.name := ⟨_, part?_tool h, rfl⟩

theorem entityAt_prompt {i : Nat} {prompt : Prompt} (h : agent.prompts[i]? = some prompt) :
    agent.EntityAt (.entry "prompts" i) "prompt" prompt.name := ⟨_, part?_prompt h, rfl⟩

theorem NameAt.bearsOut {field name expected : String}
    (h : agent.NameAt place field name) :
    agent.BearsOut place .naming (.invalidFormat field name expected) := by
  cases h with
  | agent => exact ⟨rfl, [], "agent", entityAt_agent, rfl, by decide⟩
  | workflow h =>
    exact ⟨part?_field (part?_workflow h), _, "workflow", entityAt_workflow h, rfl, by decide⟩
  | node h hn =>
    exact ⟨part?_field (part?_node h hn), _, "node", entityAt_node h hn, rfl, by decide⟩
  | module h =>
    exact ⟨part?_field (part?_module h), _, "module", entityAt_module h, rfl, by decide⟩
  | prompt h =>
    exact ⟨part?_field (part?_prompt h), _, "prompt", entityAt_prompt h, rfl, by decide⟩
  | tool h => exact ⟨part?_field (part?_tool h), _, "tool", entityAt_tool h, rfl, by decide⟩

theorem filterMap_name? {α : Type} {f : α → Part} {name : α → String}
    (h : ∀ a, (f a).name? = some (name a)) (items : List α) :
    (items.map f).filterMap Part.name? = items.map name := by
  rw [List.filterMap_map, ← List.filterMap_eq_map]
  exact List.filterMap_congr fun a _ => h a

theorem NamesIn.listsAt {collection : String} {names : List String}
    (h : agent.NamesIn collection names) : agent.ListsAt (.top collection) names := by
  cases h with
  | workflows => exact ⟨_, rfl, filterMap_name? (fun _ => rfl) _⟩
  | modules => exact ⟨_, rfl, filterMap_name? (fun _ => rfl) _⟩
  | prompts => exact ⟨_, rfl, filterMap_name? (fun _ => rfl) _⟩
  | tools => exact ⟨_, rfl, filterMap_name? (fun _ => rfl) _⟩

theorem listsAt_nodes {i : Nat} {w : Workflow} (h : agent.workflows[i]? = some w) :
    agent.ListsAt ((Place.entry "workflows" i).field "nodes") (w.nodes.map (·.name)) :=
  ⟨_, part?_field (part?_workflow h), filterMap_name? (fun _ => rfl) _⟩

end Agent

/-- The cycles of a graph made from edges lead along the names that it was made from. -/
theorem Graph.mem_of_mem_pathNames {names : List String} {edges : List Edge} {path : List Nat}
    (h : path ∈ (ofEdges names edges).cycles) {name : String}
    (hn : name ∈ (ofEdges names edges).pathNames path) : name ∈ names := by
  have hg := wellFormed_ofEdges names edges
  obtain ⟨i, hi, rfl⟩ := List.mem_map.1 hn
  have hlt := lt_size_of_closedPath hg (hg.closedPath_of_mem_cycles h) hi
  rw [← hg.table_size, table_ofEdges] at hlt
  rw [table_ofEdges, NameTable.name, Array.getD_eq_getD_getElem?, Array.getElem?_eq_getElem hlt]
  exact NameTable.mem_names_ofList.1 (Array.getElem_mem hlt)

namespace Rule

variable {terms : List String} {agent : Agent} {rule : Rule} {f : Finding}

theorem Finds.bearsOut (h : Finds terms agent rule f) (hr : rule ≠ .schemas) :
    agent.BearsOut f.place rule f.defect := by
  cases h with
  | misnamed h => exact h.bearsOut
  | misversioned => exact ⟨rfl, rfl⟩
  | @repeatedName collection name names h hn =>
    have hscope : collection ++ " of agent '" ++ agent.name ++ "'" =
        collection ++ " of " ++ quoted "agent" agent.name :=
      String.toList_inj.1 (by simp [quoted])
    exact ⟨names, h.listsAt, hn, [], "agent", _, collection, Agent.entityAt_agent, rfl, hscope⟩
  | @repeatedNode i w name h hn =>
    have hscope : "nodes of workflow '" ++ w.name ++ "'" =
        "nodes" ++ " of " ++ quoted "workflow" w.name :=
      String.toList_inj.1 (by simp [quoted])
    exact ⟨_, Agent.listsAt_nodes h, hn, _, "workflow", _, "nodes", Agent.entityAt_workflow h, rfl,
      hscope⟩
  | noWorkflows h =>
    have hl : agent.part? (.top "workflows") = some (.list (agent.workflows.map .workflow)) := rfl
    rw [h] at hl
    exact ⟨hl, [], "agent", _, Agent.entityAt_agent, rfl, rfl⟩
  | @noNodes i w h hn =>
    have hl : agent.part? ((Place.entry "workflows" i).field "nodes") =
        some (.list (w.nodes.map .node)) := Agent.part?_field (Agent.part?_workflow h)
    rw [hn] at hl
    exact ⟨hl, _, "workflow", _, Agent.entityAt_workflow h, rfl, rfl⟩
  | @lostEntry i w h hl =>
    have hthere : agent.Reads ((Place.entry "workflows" i).field "entry_node") w.entryNode :=
      Agent.part?_field (Agent.part?_workflow h)
    exact ⟨hthere, _, .inl ⟨Agent.entityAt_workflow h, rfl⟩⟩
  | @lostDependency i j k w node name h hn hd hl =>
    have hthere : agent.Reads (((Place.node i j).field "depends_on").item k) name :=
      Agent.part?_item (Agent.part?_field (Agent.part?_node h hn)) hd
    exact ⟨hthere, _, .inr ⟨Agent.entityAt_node h hn, .inr ⟨k, rfl⟩⟩⟩
  | @lostReference i j w node target h hn ht hl =>
    have hthere : agent.Reads ((Place.node i j).field "reference") target := by
      rw [Agent.Reads, Agent.part?_field (Agent.part?_node h hn), Part.field?, ht]
      rfl
    exact ⟨hthere, _, .inr ⟨Agent.entityAt_node h hn, .inl rfl⟩⟩
  | unused h =>
    cases h with
    | module hm => exact ⟨.inl (Agent.entityAt_module hm), rfl⟩
    | tool ht => exact ⟨.inr (Agent.entityAt_tool ht), rfl⟩
  | nodeCycle h hp =>
    exact ⟨_, Agent.listsAt_nodes h, fun _ => Graph.mem_of_mem_pathNames hp,
      .inl ⟨_, Agent.entityAt_workflow h, rfl⟩⟩
  | @callCycle path hp =>
    have hhead : ((callGraph agent).pathNames path).head? =
        some (((callGraph agent).pathNames path).headD "") := by
      have hc := (wellFormed_callGraph agent).closedPath_pathNames hp
      cases hn : (callGraph agent).pathNames path with
      | nil => simpa [hn] using hc.two_le_length
      | cons first rest => rfl
    exact ⟨_, Agent.NamesIn.workflows.listsAt, fun _ => Graph.mem_of_mem_pathNames hp,
      .inr ⟨rfl, hhead⟩⟩
  | stranded h hs hj =>
    exact ⟨Agent.entityAt_node h hj.here, _, _, rfl, Agent.entityAt_workflow h⟩
  | malformed => exact (hr rfl).elim
  | @misnamedPlaceholder i prompt name h hm hi =>
    have ht : agent.Reads ((Place.entry "prompts" i).field "template") prompt.template :=
      Agent.part?_field (Agent.part?_prompt h)
    exact ⟨rfl, _, _, _, Agent.entityAt_prompt h, rfl, ht, hm⟩
  | @undeclaredPlaceholder i prompt name h hp hm hn =>
    have ht : agent.Reads ((Place.entry "prompts" i).field "template") prompt.template :=
      Agent.part?_field (Agent.part?_prompt h)
    exact ⟨_, _, Agent.entityAt_prompt h, rfl, ht, hm⟩
  | @unusedParameter i k prompt name h hk hn =>
    have hthere : agent.Reads (((Place.entry "prompts" i).field "variables").item k) name :=
      Agent.part?_item (Agent.part?_field (Agent.part?_prompt h)) hk
    exact ⟨hthere, _, _, k, Agent.entityAt_prompt h, rfl, rfl⟩
  | reservedTerm ht hm hc => exact ⟨rfl, _, ht.part?, hc⟩

/-- Whatever a rule other than that for schemas finds, its path leads to a part of the agent of
which the finding is true, and to no other one. -/
theorem findings_stand_at_culprits (terms : List String) (agent : Agent) (rule : Rule)
    (f : Finding) (hr : rule ≠ .schemas) (hf : f ∈ rule.check terms agent) :
    (∃ part, agent.part? f.place = some part) ∧ agent.BearsOut f.place rule f.defect ∧
      ∀ other part, agent.part? other = some part → other.render = f.path → other = f.place := by
  have hb := (mem_check_iff.1 hf).bearsOut hr
  obtain ⟨part, hp⟩ := hb.exists_part
  exact ⟨⟨part, hp⟩, hb, fun other found ho he => Agent.eq_of_render_eq hp ho he⟩

/-- A workflow of that name whose second node needs the first one and another. -/
def twin (name needed : String) : Workflow where
  name := name
  description := ""
  entryNode := "first"
  nodes := [⟨"first", "", none, .task, none, [], [], []⟩,
    ⟨"second", "", none, .task, none, ["first", needed], [], []⟩]

/-- An agent with two workflows of equal nodes, of which the second one has a dependency on a node
that is not there. -/
def twins : Agent where
  name := "twins"
  version := "1.0.0"
  description := ""
  kind := .composite
  goal := none
  criteria := none
  inputSchema := none
  outputSchema := none
  workflows := [twin "left" "first", twin "right" "third"]
  modules := []
  prompts := []
  tools := []

theorem findings_stand_at_culprits_twins :
    let f := Finding.error (((Place.node 1 1).field "depends_on").item 1)
      (.unresolved "second" "third")
    Rule.references ≠ .schemas ∧ f ∈ Rule.references.check [] twins ∧
      f.path = "workflows[1].nodes[1].depends_on[1]" ∧ twins.Reads f.place "third" ∧
        ∀ other part, twins.part? other = some part → other.render = f.path → other = f.place := by
  intro f
  have hr : Rule.references ≠ .schemas := by decide
  have hf : f ∈ Rule.references.check [] twins := by decide +kernel
  obtain ⟨-, hb, hu⟩ := findings_stand_at_culprits [] twins .references f hr hf
  exact ⟨hr, hf, by decide +kernel, hb.1, hu⟩

end Rule

end AgentSpec
