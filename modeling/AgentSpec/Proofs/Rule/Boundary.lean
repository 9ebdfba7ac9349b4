import AgentSpec.Proofs.Rule.Severity
import AgentSpec.Proofs.Text.Words

/-! When no text of an agent contains a reserved term. -/
namespace AgentSpec

/-- The texts of a node that stands at `place`. -/
inductive Node.TextAt (node : Node) (place : Place) : Place → String → Prop
  | name : TextAt node place (place.field "name") node.name
  | goal : TextAt node place (place.field "goal") node.goal
  | description {text : String} (h : node.description = some text) :
      TextAt node place (place.field "description") text
  | reference {text : String} (h : node.reference = some text) :
      TextAt node place (place.field "reference") text
  | input {k : Nat} {text : String} (h : node.inputs[k]? = some text) :
      TextAt node place ((place.field "inputs").item k) text
  | output {k : Nat} {text : String} (h : node.outputs[k]? = some text) :
      TextAt node place ((place.field "outputs").item k) text

/-- The texts of the workflow at an index. -/
inductive Workflow.TextAt (w : Workflow) (i : Nat) : Place → String → Prop
  | name : TextAt w i ((Place.entry "workflows" i).field "name") w.name
  | description : TextAt w i ((Place.entry "workflows" i).field "description") w.description
  | entryNode : TextAt w i ((Place.entry "workflows" i).field "entry_node") w.entryNode
  | node {j : Nat} {node : Node} {there : Place} {text : String} (hn : w.nodes[j]? = some node)
      (ht : node.TextAt (.node i j) there text) : TextAt w i there text

inductive Capability.TextAt (c : Capability) (place : Place) : Place → String → Prop
  | name : TextAt c place (place.field "name") c.name
  | description : TextAt c place (place.field "description") c.description

inductive Prompt.TextAt (prompt : Prompt) (place : Place) : Place → String → Prop
  | name : TextAt prompt place (place.field "name") prompt.name
  | description : TextAt prompt place (place.field "description") prompt.description
  | template : TextAt prompt place (place.field "template") prompt.template
  | parameter {k : Nat} {text : String} (h : prompt.parameters[k]? = some text) :
      TextAt prompt place ((place.field "variables").item k) text

inductive Criteria.TextAt (criteria : Criteria) (place : Place) : Place → String → Prop
  | success : TextAt criteria place (place.field "success") criteria.success
  | failure : TextAt criteria place (place.field "failure") criteria.failure

/-- The texts of an agent that describe something. -/
inductive Agent.TextAt (agent : Agent) : Place → String → Prop
  | name : TextAt agent (.top "name") agent.name
  | description : TextAt agent (.top "description") agent.description
  | goal {text : String} (h : agent.goal = some text) : TextAt agent (.top "task_goal") text
  | criteria {criteria : Criteria} {there : Place} {text : String}
      (h : agent.criteria = some criteria)
      (ht : criteria.TextAt (.top "completion_criteria") there text) : TextAt agent there text
  | workflow {i : Nat} {w : Workflow} {there : Place} {text : String}
      (h : agent.workflows[i]? = some w) (ht : w.TextAt i there text) : TextAt agent there text
  | module {i : Nat} {m : Capability} {there : Place} {text : String}
      (h : agent.modules[i]? = some m) (ht : m.TextAt (.entry "modules" i) there text) :
      TextAt agent there text
  | prompt {i : Nat} {prompt : Prompt} {there : Place} {text : String}
      (h : agent.prompts[i]? = some prompt) (ht : prompt.TextAt (.entry "prompts" i) there text) :
      TextAt agent there text
  | tool {i : Nat} {tool : Capability} {there : Place} {text : String}
      (h : agent.tools[i]? = some tool) (ht : tool.TextAt (.entry "tools" i) there text) :
      TextAt agent there text

namespace Rule

variable {agent : Agent} {node : Node} {place there : Place} {text : String}

theorem mem_optionalText {value : Option String} :
    (there, text) ∈ optionalText place value ↔ there = place ∧ value = some text := by
  cases value <;> simp [optionalText, eq_comm]

theorem mem_listedTexts {texts : List String} :
    (there, text) ∈ listedTexts place texts ↔
      ∃ k, texts[k]? = some text ∧ there = place.item k := by
  simp only [listedTexts, List.mem_map, Prod.exists, Prod.mk.injEq,
    List.mem_zipIdx_iff_getElem?]
  constructor
  · intro h
    obtain ⟨_, k, hk, rfl, rfl⟩ := h
    exact ⟨k, hk, rfl⟩
  · intro h
    obtain ⟨k, hk, rfl⟩ := h
    exact ⟨text, k, hk, rfl, rfl⟩

theorem mem_nodeTexts : (there, text) ∈ nodeTexts place node ↔ node.TextAt place there text := by
  simp only [nodeTexts, List.mem_append, mem_optionalText, mem_listedTexts, List.mem_cons,
    List.not_mem_nil, or_false, Prod.mk.injEq]
  constructor
  · intro h
    rcases h with ((((⟨rfl, rfl⟩ | ⟨rfl, rfl⟩) | ⟨rfl, h⟩) | ⟨rfl, h⟩) | ⟨k, h, rfl⟩) | ⟨k, h, rfl⟩
    · exact .name
    · exact .goal
    · exact .description h
    · exact .reference h
    · exact .input h
    · exact .output h
  · intro h
    cases h with
    | name => simp
    | goal => simp
    | description h => simp [h]
    | reference h => simp [h]
    | input h => exact .inl (.inr ⟨_, h, rfl⟩)
    | output h => exact .inr ⟨_, h, rfl⟩

theorem mem_workflowTexts {i : Nat} {w : Workflow} :
    (there, text) ∈ workflowTexts i w ↔ w.TextAt i there text := by
  simp only [workflowTexts, List.mem_append, List.mem_cons, List.not_mem_nil, or_false,
    Prod.mk.injEq, or_assoc, List.mem_flatMap, Prod.exists, mem_nodeTexts,
    List.mem_zipIdx_iff_getElem?]
  constructor
  · intro h
    rcases h with ⟨rfl, rfl⟩ | ⟨rfl, rfl⟩ | ⟨rfl, rfl⟩ | ⟨node, j, hn, ht⟩
    · exact .name
    · exact .description
    · exact .entryNode
    · exact .node hn ht
  · intro h
    cases h with
    | name => simp
    | description => simp
    | entryNode => simp
    | node hn ht => exact .inr (.inr (.inr ⟨_, _, hn, ht⟩))

theorem mem_capabilityTexts {collection : String} {capabilities : List Capability} :
    (there, text) ∈ capabilityTexts collection capabilities ↔
      ∃ (i : Nat) (c : Capability), capabilities[i]? = some c ∧
        c.TextAt (.entry collection i) there text := by
  have h : ∀ (c : Capability) (place : Place), c.TextAt place there text ↔
      (there = place.field "name" ∧ text = c.name) ∨
        there = place.field "description" ∧ text = c.description := by
    intro c place
    constructor
    · intro h
      cases h <;> simp
    · intro h
      rcases h with ⟨rfl, rfl⟩ | ⟨rfl, rfl⟩
      · exact .name
      · exact .description
  simp only [capabilityTexts, List.mem_flatMap, Prod.exists, List.mem_zipIdx_iff_getElem?,
    List.mem_cons, List.not_mem_nil, or_false, Prod.mk.injEq, h]
  rw [exists_comm]

theorem mem_promptTexts {i : Nat} {prompt : Prompt} :
    (there, text) ∈ promptTexts i prompt ↔ prompt.TextAt (.entry "prompts" i) there text := by
  simp only [promptTexts, List.mem_append, List.mem_cons, List.not_mem_nil, or_false,
    Prod.mk.injEq, or_assoc, mem_listedTexts]
  constructor
  · intro h
    rcases h with ⟨rfl, rfl⟩ | ⟨rfl, rfl⟩ | ⟨rfl, rfl⟩ | ⟨k, hk, rfl⟩
    · exact .name
    · exact .description
    · exact .template
    · exact .parameter hk
  · intro h
    cases h with
    | name => simp
    | description => simp
    | template => simp
    | parameter hk => exact .inr (.inr (.inr ⟨_, hk, rfl⟩))

theorem mem_criteriaTexts {criteria : Option Criteria} :
    (there, text) ∈ criteriaTexts criteria ↔ ∃ c, criteria = some c ∧
      c.TextAt (.top "completion_criteria") there text := by
  cases criteria with
  | none => simp [criteriaTexts]
  | some c =>
    simp only [criteriaTexts, List.mem_cons, List.not_mem_nil, or_false, Prod.mk.injEq,
      Option.some.injEq, exists_eq_left']
    constructor
    · intro h
      rcases h with ⟨rfl, rfl⟩ | ⟨rfl, rfl⟩
      · exact .success
      · exact .failure
    · intro h
      cases h <;> simp

/-- The scanned texts are those that describe something, each with its place. -/
theorem mem_scannedTexts : (there, text) ∈ scannedTexts agent ↔ agent.TextAt there text := by
  simp only [scannedTexts, List.mem_append, mem_optionalText, mem_criteriaTexts,
    mem_capabilityTexts, List.mem_flatMap, Prod.exists, List.mem_zipIdx_iff_getElem?,
    mem_workflowTexts, mem_promptTexts, List.mem_cons, List.not_mem_nil, or_false, Prod.mk.injEq,
    or_assoc]
  constructor
  · intro h
    rcases h with ⟨rfl, rfl⟩ | ⟨rfl, rfl⟩ | ⟨rfl, h⟩ | ⟨c, h, ht⟩ | ⟨w, i, h, ht⟩ | ⟨i, m, h, ht⟩ |
      ⟨prompt, i, h, ht⟩ | ⟨i, tool, h, ht⟩
    · exact .name
    · exact .description
    · exact .goal h
    · exact .criteria h ht
    · exact .workflow h ht
    · exact .module h ht
    · exact .prompt h ht
    · exact .tool h ht
  · intro h
    cases h with
    | name => simp
    | description => simp
    | goal h => simp [h]
    | criteria h ht => exact .inr (.inr (.inr (.inl ⟨_, h, ht⟩)))
    | workflow h ht => exact .inr (.inr (.inr (.inr (.inl ⟨_, _, h, ht⟩))))
    | module h ht => exact .inr (.inr (.inr (.inr (.inr (.inl ⟨_, _, h, ht⟩)))))
    | prompt h ht => exact .inr (.inr (.inr (.inr (.inr (.inr (.inl ⟨_, _, h, ht⟩))))))
    | tool h ht => exact .inr (.inr (.inr (.inr (.inr (.inr (.inr ⟨_, _, h, ht⟩))))))

/-- The terms that have words, together with these. -/
def searchedTerms (terms : List String) : List (String × List (List Char)) :=
  (terms.map fun term => (term, Text.tokens term)).filter fun (_, words) => !words.isEmpty

theorem mem_searchedTerms {terms : List String} {term : String} {pattern : List (List Char)} :
    (term, pattern) ∈ searchedTerms terms ↔
      term ∈ terms ∧ pattern = Text.tokens term ∧ Text.tokens term ≠ [] := by
  simp only [searchedTerms, List.mem_filter, List.mem_map, Prod.mk.injEq, Bool.not_eq_true',
    List.isEmpty_eq_false_iff]
  constructor
  · intro h
    obtain ⟨⟨_, ht, rfl, rfl⟩, hne⟩ := h
    exact ⟨ht, rfl, hne⟩
  · intro h
    obtain ⟨ht, rfl, hne⟩ := h
    exact ⟨⟨term, ht, rfl, rfl⟩, hne⟩

/-- A warning is given for each text with each term that it contains. -/
theorem mem_boundaryFindings {terms : List String} {f : Finding} :
    f ∈ boundaryFindings terms agent ↔ ∃ there text term, agent.TextAt there text ∧
      term ∈ terms ∧ Text.Contains text term ∧
        f = .warning there (.reservedTerm there.render term) := by
  have hf : f ∈ boundaryFindings terms agent ↔ ∃ p ∈ scannedTexts agent,
      ∃ q ∈ searchedTerms terms, Text.hasWindow q.2 (Text.tokens p.2) = true ∧
        f = .warning p.1 (.reservedTerm p.1.render q.1) := by
    rw [boundaryFindings, (emits_checkBoundary terms agent).alone_eq, ← searchedTerms]
    dsimp only
    split
    · rename_i hempty
      rw [List.isEmpty_iff.1 hempty]
      simp
    · simp only [List.mem_flatMap, List.mem_filterMap, Option.ite_none_right_eq_some,
        Option.some.injEq]
      exact exists_congr fun p => and_congr_right fun _ => exists_congr fun q =>
        and_congr_right fun _ => and_congr_right fun _ => eq_comm
  rw [hf]
  constructor
  · intro h
    obtain ⟨⟨there, text⟩, hp, ⟨term, pattern⟩, hq, hw, rfl⟩ := h
    obtain ⟨ht, rfl, hne⟩ := mem_searchedTerms.1 hq
    exact ⟨there, text, term, mem_scannedTexts.1 hp, ht, Text.contains_iff.2 ⟨hne, hw⟩, rfl⟩
  · intro h
    obtain ⟨there, text, term, hp, ht, hc, rfl⟩ := h
    obtain ⟨hne, hw⟩ := Text.contains_iff.1 hc
    exact ⟨_, mem_scannedTexts.2 hp, (term, Text.tokens term),
      mem_searchedTerms.2 ⟨ht, rfl, hne⟩, hw, rfl⟩

theorem boundary_warning_iff {terms : List String} :
    Lacks .warning (boundaryFindings terms agent) ↔
      ∀ there text, agent.TextAt there text → ∀ term ∈ terms, ¬ Text.Contains text term := by
  constructor
  · intro h there text ht term hm hc
    exact h _ (mem_boundaryFindings.2 ⟨there, text, term, ht, hm, hc, rfl⟩) rfl
  · intro h f hf
    obtain ⟨there, text, term, ht, hm, hc, rfl⟩ := mem_boundaryFindings.1 hf
    exact absurd hc (h there text ht term hm)

theorem boundary_no_error {terms : List String} : Lacks .error (boundaryFindings terms agent) := by
  intro f hf
  obtain ⟨there, text, term, -, -, -, rfl⟩ := mem_boundaryFindings.1 hf
  nofun

end Rule

end AgentSpec
