import AgentSpec.Proofs.Place
import AgentSpec.Proofs.Rule.Boundary

/-! The text at a place of an agent. There is no more than one, even if only the text of the place
is known. -/
namespace AgentSpec

/-- The text that a route leads to from a node. -/
def Node.text? (node : Node) : Place → Option String
  | [.field "name"] => some node.name
  | [.field "goal"] => some node.goal
  | [.field "description"] => node.description
  | [.field "reference"] => node.reference
  | [.field "inputs", .item k] => node.inputs[k]?
  | [.field "outputs", .item k] => node.outputs[k]?
  | _ => none

def Workflow.text? (w : Workflow) : Place → Option String
  | [.field "name"] => some w.name
  | [.field "description"] => some w.description
  | [.field "entry_node"] => some w.entryNode
  | .field "nodes" :: .item j :: route => w.nodes[j]?.bind (·.text? route)
  | _ => none

def Capability.text? (c : Capability) : Place → Option String
  | [.field "name"] => some c.name
  | [.field "description"] => some c.description
  | _ => none

def Prompt.text? (prompt : Prompt) : Place → Option String
  | [.field "name"] => some prompt.name
  | [.field "description"] => some prompt.description
  | [.field "template"] => some prompt.template
  | [.field "variables", .item k] => prompt.parameters[k]?
  | _ => none

def Criteria.text? (criteria : Criteria) : Place → Option String
  | [.field "success"] => some criteria.success
  | [.field "failure"] => some criteria.failure
  | _ => none

/-- The text that stands at a place of an agent. -/
def Agent.text? (agent : Agent) : Place → Option String
  | [.field "name"] => some agent.name
  | [.field "description"] => some agent.description
  | [.field "task_goal"] => agent.goal
  | .field "completion_criteria" :: route => agent.criteria.bind (·.text? route)
  | .field "workflows" :: .item i :: route => agent.workflows[i]?.bind (·.text? route)
  | .field "modules" :: .item i :: route => agent.modules[i]?.bind (·.text? route)
  | .field "prompts" :: .item i :: route => agent.prompts[i]?.bind (·.text? route)
  | .field "tools" :: .item i :: route => agent.tools[i]?.bind (·.text? route)
  | _ => none

namespace Place

variable {place there route : Place}

/-- A place behind another one, by a route without dots and brackets. -/
structure LeadsTo (place route there : Place) : Prop where
  append : there = place ++ route
  plain : route.Plain

theorem plain_append : (place ++ route).Plain ↔ place.Plain ∧ route.Plain :=
  List.forall_mem_append

theorem plain_field {name : String} (h : ∀ c ∈ name.toList, c ≠ '.' ∧ c ≠ '[') :
    Plain [.field name] := by
  intro step hs
  rw [List.mem_singleton.1 hs]
  exact h

theorem plain_item {name : String} {k : Nat} (h : ∀ c ∈ name.toList, c ≠ '.' ∧ c ≠ '[') :
    Plain [.field name, .item k] := by
  intro step hs
  rcases List.mem_cons.1 hs with rfl | hs
  · exact h
  · rw [List.mem_singleton.1 hs]
    trivial

theorem leadsTo_field {name : String} (h : ∀ c ∈ name.toList, c ≠ '.' ∧ c ≠ '[') :
    place.LeadsTo [.field name] (place.field name) := ⟨rfl, plain_field h⟩

theorem leadsTo_item {name : String} {k : Nat} (h : ∀ c ∈ name.toList, c ≠ '.' ∧ c ≠ '[') :
    place.LeadsTo [.field name, .item k] ((place.field name).item k) :=
  ⟨by simp [field, item], plain_item h⟩

/-- The route goes on behind the entry of a list. -/
theorem LeadsTo.behind {name : String} {k : Nat} (h : LeadsTo (place ++ [.field name, .item k])
    route there) (hn : ∀ c ∈ name.toList, c ≠ '.' ∧ c ≠ '[') :
    place.LeadsTo (.field name :: .item k :: route) there where
  append := by rw [h.append, List.append_assoc]; rfl
  plain := plain_append.2 ⟨plain_item hn, h.plain⟩

end Place

variable {place there : Place} {text : String}

theorem Node.TextAt.text? {node : Node} (h : node.TextAt place there text) :
    ∃ route, place.LeadsTo route there ∧ node.text? route = some text := by
  cases h with
  | name => exact ⟨_, Place.leadsTo_field (by simp), rfl⟩
  | goal => exact ⟨_, Place.leadsTo_field (by simp), rfl⟩
  | description h => exact ⟨_, Place.leadsTo_field (by simp), h⟩
  | reference h => exact ⟨_, Place.leadsTo_field (by simp), h⟩
  | input h => exact ⟨_, Place.leadsTo_item (by simp), h⟩
  | output h => exact ⟨_, Place.leadsTo_item (by simp), h⟩

theorem Workflow.TextAt.text? {w : Workflow} {i : Nat} (h : w.TextAt i there text) :
    ∃ route, (Place.entry "workflows" i).LeadsTo route there ∧ w.text? route = some text := by
  cases h with
  | name => exact ⟨_, Place.leadsTo_field (by simp), rfl⟩
  | description => exact ⟨_, Place.leadsTo_field (by simp), rfl⟩
  | entryNode => exact ⟨_, Place.leadsTo_field (by simp), rfl⟩
  | @node j node _ _ hn ht =>
    obtain ⟨route, hr, he⟩ := ht.text?
    have hw : (Place.entry "workflows" i).LeadsTo (.field "nodes" :: .item j :: route) there :=
      Place.LeadsTo.behind hr (by simp)
    exact ⟨_, hw, Option.bind_eq_some_iff.2 ⟨node, hn, he⟩⟩

theorem Capability.TextAt.text? {c : Capability} (h : c.TextAt place there text) :
    ∃ route, place.LeadsTo route there ∧ c.text? route = some text := by
  cases h with
  | name => exact ⟨_, Place.leadsTo_field (by simp), rfl⟩
  | description => exact ⟨_, Place.leadsTo_field (by simp), rfl⟩

theorem Prompt.TextAt.text? {prompt : Prompt} (h : prompt.TextAt place there text) :
    ∃ route, place.LeadsTo route there ∧ prompt.text? route = some text := by
  cases h with
  | name => exact ⟨_, Place.leadsTo_field (by simp), rfl⟩
  | description => exact ⟨_, Place.leadsTo_field (by simp), rfl⟩
  | template => exact ⟨_, Place.leadsTo_field (by simp), rfl⟩
  | parameter h => exact ⟨_, Place.leadsTo_item (by simp), h⟩

theorem Criteria.TextAt.text? {criteria : Criteria} (h : criteria.TextAt place there text) :
    ∃ route, place.LeadsTo route there ∧ criteria.text? route = some text := by
  cases h with
  | success => exact ⟨_, Place.leadsTo_field (by simp), rfl⟩
  | failure => exact ⟨_, Place.leadsTo_field (by simp), rfl⟩

/-- What describes something is found where it stands, by a route of plain names. -/
theorem Agent.TextAt.text? {agent : Agent} (h : agent.TextAt there text) :
    there.Plain ∧ (∃ name rest, there = .field name :: rest) ∧ agent.text? there = some text := by
  -- what is the same for the entries of workflows, modules, prompts and tools
  have entry : ∀ {list : String} {i : Nat} {route : Place},
      (Place.entry list i).LeadsTo route there → (∀ c ∈ list.toList, c ≠ '.' ∧ c ≠ '[') →
      there.Plain ∧ there = .field list :: .item i :: route := by
    intro list i route hr hl
    have hwhole : Place.LeadsTo [] (.field list :: .item i :: route) there :=
      Place.LeadsTo.behind hr hl
    rw [hwhole.append]
    exact ⟨hwhole.plain, rfl⟩
  cases h with
  | name => exact ⟨Place.plain_field (by simp), ⟨_, _, rfl⟩, rfl⟩
  | description => exact ⟨Place.plain_field (by simp), ⟨_, _, rfl⟩, rfl⟩
  | goal h => exact ⟨Place.plain_field (by simp), ⟨_, _, rfl⟩, h⟩
  | criteria h ht =>
    obtain ⟨route, hr, he⟩ := ht.text?
    rw [hr.append]
    refine ⟨Place.plain_append.2 ⟨Place.plain_field (by simp), hr.plain⟩, ⟨_, _, rfl⟩, ?_⟩
    exact Option.bind_eq_some_iff.2 ⟨_, h, he⟩
  | workflow h ht =>
    obtain ⟨route, hr, he⟩ := ht.text?
    obtain ⟨hp, rfl⟩ := entry hr (by simp)
    exact ⟨hp, ⟨_, _, rfl⟩, Option.bind_eq_some_iff.2 ⟨_, h, he⟩⟩
  | module h ht =>
    obtain ⟨route, hr, he⟩ := ht.text?
    obtain ⟨hp, rfl⟩ := entry hr (by simp)
    exact ⟨hp, ⟨_, _, rfl⟩, Option.bind_eq_some_iff.2 ⟨_, h, he⟩⟩
  | prompt h ht =>
    obtain ⟨route, hr, he⟩ := ht.text?
    obtain ⟨hp, rfl⟩ := entry hr (by simp)
    exact ⟨hp, ⟨_, _, rfl⟩, Option.bind_eq_some_iff.2 ⟨_, h, he⟩⟩
  | tool h ht =>
    obtain ⟨route, hr, he⟩ := ht.text?
    obtain ⟨hp, rfl⟩ := entry hr (by simp)
    exact ⟨hp, ⟨_, _, rfl⟩, Option.bind_eq_some_iff.2 ⟨_, h, he⟩⟩

/-- The text of a place leaves no doubt about the place nor about the text that stands there. -/
theorem Agent.TextAt.unique {agent : Agent} {other : Place} {text' : String}
    (h : agent.TextAt there text) (h' : agent.TextAt other text')
    (he : there.render = other.render) : there = other ∧ text = text' := by
  obtain ⟨hp, ⟨name, rest, rfl⟩, ht⟩ := h.text?
  obtain ⟨hp', ⟨name', rest', rfl⟩, ht'⟩ := h'.text?
  have heq := Place.render_inj hp hp' he
  rw [heq, ht'] at ht
  exact ⟨heq, (Option.some.inj ht).symm⟩

end AgentSpec
