import AgentSpec.Proofs.Rule.Locations

/-! What stands at a place of an agent: an entity, a list or a text. -/
namespace AgentSpec

/-- What a place can lead to. -/
inductive Part where
  | agent (agent : Agent)
  | criteria (criteria : Criteria)
  | workflow (w : Workflow)
  | node (node : Node)
  | module (m : Capability)
  | tool (tool : Capability)
  | prompt (prompt : Prompt)
  | list (items : List Part)
  | text (text : String)

namespace Part

def texts (values : List String) : Part := .list (values.map .text)

/-- The part in the field of that name. -/
def field? : Part → String → Option Part
  | .agent a, "name" => some (.text a.name)
  | .agent a, "version" => some (.text a.version)
  | .agent a, "description" => some (.text a.description)
  | .agent a, "task_goal" => a.goal.map .text
  | .agent a, "completion_criteria" => a.criteria.map .criteria
  | .agent a, "workflows" => some (.list (a.workflows.map .workflow))
  | .agent a, "modules" => some (.list (a.modules.map .module))
  | .agent a, "prompts" => some (.list (a.prompts.map .prompt))
  | .agent a, "tools" => some (.list (a.tools.map .tool))
  | .criteria c, "success" => some (.text c.success)
  | .criteria c, "failure" => some (.text c.failure)
  | .workflow w, "name" => some (.text w.name)
  | .workflow w, "description" => some (.text w.description)
  | .workflow w, "entry_node" => some (.text w.entryNode)
  | .workflow w, "nodes" => some (.list (w.nodes.map .node))
  | .node n, "name" => some (.text n.name)
  | .node n, "goal" => some (.text n.goal)
  | .node n, "description" => n.description.map .text
  | .node n, "reference" => n.reference.map .text
  | .node n, "depends_on" => some (texts n.dependsOn)
  | .node n, "inputs" => some (texts n.inputs)
  | .node n, "outputs" => some (texts n.outputs)
  | .module c, "name" | .tool c, "name" => some (.text c.name)
  | .module c, "description" | .tool c, "description" => some (.text c.description)
  | .prompt p, "name" => some (.text p.name)
  | .prompt p, "description" => some (.text p.description)
  | .prompt p, "template" => some (.text p.template)
  | .prompt p, "variables" => some (texts p.parameters)
  | _, _ => none

def item? : Part → Nat → Option Part
  | .list items, k => items[k]?
  | _, _ => none

def step? (part : Part) : Step → Option Part
  | .field name => part.field? name
  | .item k => part.item? k

/-- The part at the end of a route. -/
def follow (part : Part) (route : Place) : Option Part := route.foldlM step? part

/-- The kind of an entity, and the name that it bears. -/
def entity? : Part → Option (String × String)
  | .agent a => some ("agent", a.name)
  | .workflow w => some ("workflow", w.name)
  | .node n => some ("node", n.name)
  | .module m => some ("module", m.name)
  | .tool t => some ("tool", t.name)
  | .prompt p => some ("prompt", p.name)
  | .criteria _ | .list _ | .text _ => none

def name? (part : Part) : Option String := part.entity?.map (·.2)

variable {part found : Part} {route : Place} {step : Step}

theorem follow_append (part : Part) (first rest : Place) :
    part.follow (first ++ rest) = (part.follow first).bind (·.follow rest) :=
  List.foldlM_append ..

theorem follow_cons (part : Part) (step : Step) (rest : Place) :
    part.follow (step :: rest) = (part.step? step).bind (·.follow rest) :=
  List.foldlM_cons ..

/-- Every field that leads to something has a plain name. -/
theorem step?_plain (h : part.step? step = some found) : step.Plain ∧ step ≠ .field "" := by
  cases step with
  | item k => exact ⟨trivial, nofun⟩
  | field name =>
    simp only [step?] at h
    unfold field? at h
    split at h <;> simp_all [Step.Plain]

theorem follow_plain (h : part.follow route = some found) :
    ∀ step ∈ route, step.Plain ∧ step ≠ .field "" := by
  induction route generalizing part with
  | nil => exact nofun
  | cons step rest ih =>
    rw [follow_cons, Option.bind_eq_some_iff] at h
    obtain ⟨next, hs, h⟩ := h
    rw [List.forall_mem_cons]
    exact ⟨step?_plain hs, ih h⟩

end Part

namespace Agent

/-- What stands at a place of an agent. -/
def part? (agent : Agent) (place : Place) : Option Part := (Part.agent agent).follow place

variable {agent : Agent} {place other : Place} {part : Part}

theorem part?_append (place rest : Place) :
    agent.part? (place ++ rest) = (agent.part? place).bind (·.follow rest) :=
  Part.follow_append ..

/-- A field of a part stands behind the part. -/
theorem part?_field {name : String} (h : agent.part? place = some part) :
    agent.part? (place.field name) = part.field? name := by
  rw [Place.field, part?_append, h, Option.bind_some, Part.follow_cons]
  cases hf : part.field? name <;> simp [Part.step?, hf, Part.follow]

/-- An item of a list stands behind the list. -/
theorem part?_item {α : Type} {items : List α} {f : α → Part} {k : Nat} {a : α}
    (h : agent.part? place = some (.list (items.map f))) (hk : items[k]? = some a) :
    agent.part? (place.item k) = some (f a) := by
  have hi : (items.map f)[k]? = some (f a) := by rw [List.getElem?_map, hk, Option.map_some]
  rw [Place.item, part?_append, h, Option.bind_some, Part.follow_cons]
  simp [Part.step?, Part.item?, hi, Part.follow]

theorem part?_workflow {i : Nat} {w : Workflow} (h : agent.workflows[i]? = some w) :
    agent.part? (.entry "workflows" i) = some (.workflow w) := by
  have hl : agent.part? (.top "workflows") = some (.list (agent.workflows.map .workflow)) := rfl
  exact part?_item hl h

theorem part?_module {i : Nat} {m : Capability} (h : agent.modules[i]? = some m) :
    agent.part? (.entry "modules" i) = some (.module m) := by
  have hl : agent.part? (.top "modules") = some (.list (agent.modules.map .module)) := rfl
  exact part?_item hl h

theorem part?_tool {i : Nat} {tool : Capability} (h : agent.tools[i]? = some tool) :
    agent.part? (.entry "tools" i) = some (.tool tool) := by
  have hl : agent.part? (.top "tools") = some (.list (agent.tools.map .tool)) := rfl
  exact part?_item hl h

theorem part?_prompt {i : Nat} {prompt : Prompt} (h : agent.prompts[i]? = some prompt) :
    agent.part? (.entry "prompts" i) = some (.prompt prompt) := by
  have hl : agent.part? (.top "prompts") = some (.list (agent.prompts.map .prompt)) := rfl
  exact part?_item hl h

theorem part?_node {i j : Nat} {w : Workflow} {node : Node} (h : agent.workflows[i]? = some w)
    (hn : w.nodes[j]? = some node) : agent.part? (.node i j) = some (.node node) := by
  have hl : agent.part? ((Place.entry "workflows" i).field "nodes") =
    some (.list (w.nodes.map .node)) := part?_field (part?_workflow h)
  exact part?_item hl hn

/-- From the agent itself only fields lead on. -/
theorem starts_of_part? (h : agent.part? place = some part) :
    place = [] ∨ ∃ name rest, place = .field name :: rest ∧ name ≠ "" := by
  cases place with
  | nil => exact .inl rfl
  | cons step rest =>
    obtain ⟨-, hne⟩ := Part.follow_plain h step List.mem_cons_self
    cases step with
    | field name => exact .inr ⟨name, rest, rfl, fun he => hne (by rw [he])⟩
    | item k =>
      rw [part?, Part.follow_cons] at h
      cases h

theorem render_ne_empty {name : String} {rest : Place} (h : name ≠ "") :
    Place.render (.field name :: rest) ≠ "" := by
  rw [Place.render]
  simp [h]

/-- A place that leads somewhere is told from all other such places by its text. -/
theorem eq_of_render_eq {found : Part} (h : agent.part? place = some part)
    (ho : agent.part? other = some found) (he : other.render = place.render) : other = place := by
  rcases starts_of_part? h with rfl | ⟨name, rest, rfl, hn⟩
  · rcases starts_of_part? ho with rfl | ⟨name, rest, rfl, hn⟩
    · rfl
    · exact (render_ne_empty hn he).elim
  · rcases starts_of_part? ho with rfl | ⟨name', rest', rfl, hn'⟩
    · exact (render_ne_empty hn he.symm).elim
    · exact Place.render_inj (fun step hs => (Part.follow_plain ho step hs).1)
        (fun step hs => (Part.follow_plain h step hs).1) he

end Agent

variable {agent : Agent} {place there : Place} {text : String}

theorem Node.TextAt.part? {node : Node} (h : node.TextAt place there text)
    (hp : agent.part? place = some (.node node)) : agent.part? there = some (.text text) := by
  cases h with
  | name => exact Agent.part?_field hp
  | goal => exact Agent.part?_field hp
  | description h => simp [Agent.part?_field hp, Part.field?, h]
  | reference h => simp [Agent.part?_field hp, Part.field?, h]
  | input h => exact Agent.part?_item (Agent.part?_field hp) h
  | output h => exact Agent.part?_item (Agent.part?_field hp) h

theorem Capability.TextAt.part? {c : Capability} (h : c.TextAt place there text)
    (hp : agent.part? place = some (.module c) ∨ agent.part? place = some (.tool c)) :
    agent.part? there = some (.text text) := by
  rcases hp with hp | hp <;> cases h <;> exact Agent.part?_field hp

theorem Prompt.TextAt.part? {prompt : Prompt} (h : prompt.TextAt place there text)
    (hp : agent.part? place = some (.prompt prompt)) : agent.part? there = some (.text text) := by
  cases h with
  | parameter h => exact Agent.part?_item (Agent.part?_field hp) h
  | _ => exact Agent.part?_field hp

theorem Criteria.TextAt.part? {criteria : Criteria} (h : criteria.TextAt place there text)
    (hp : agent.part? place = some (.criteria criteria)) :
    agent.part? there = some (.text text) := by
  cases h <;> exact Agent.part?_field hp

/-- The texts that describe something stand where they are said to. -/
theorem Agent.TextAt.part? (h : agent.TextAt there text) :
    agent.part? there = some (.text text) := by
  cases h with
  | name => rfl
  | description => rfl
  | goal h => exact (@part?_field agent [] _ _ rfl).trans (by simp [Part.field?, h])
  | @criteria criteria _ _ h ht =>
    have hc : agent.part? (.top "completion_criteria") = some (.criteria criteria) :=
      (@part?_field agent [] _ _ rfl).trans (by simp [Part.field?, h])
    exact ht.part? hc
  | workflow h ht =>
    have hw := part?_workflow h
    cases ht with
    | node hn ht => exact ht.part? (part?_node h hn)
    | _ => exact part?_field hw
  | module h ht => exact ht.part? (.inl (part?_module h))
  | prompt h ht => exact ht.part? (part?_prompt h)
  | tool h ht => exact ht.part? (.inr (part?_tool h))

end AgentSpec
