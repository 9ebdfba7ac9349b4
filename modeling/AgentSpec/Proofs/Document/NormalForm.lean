import AgentSpec.Proofs.Document.Staged
import AgentSpec.Proofs.Draft.Finish

/-! What a document describes is written as the same document, but for descriptions that are empty.
Those of nodes are kept. -/
namespace AgentSpec

/-- A description, unless it is empty. -/
def Text.filled? (description : Option String) : Option String := description.filter (· != "")

/-- The document without empty descriptions. Nodes keep theirs. -/
def WorkflowDocument.normal (d : WorkflowDocument) : WorkflowDocument :=
  { d with description := Text.filled? d.description }

def CapabilityDocument.normal (d : CapabilityDocument) : CapabilityDocument :=
  { d with description := Text.filled? d.description }

def PromptDocument.normal (d : PromptDocument) : PromptDocument :=
  { d with description := Text.filled? d.description }

/-- The document without empty descriptions of the agent and its parts. -/
def AgentDocument.normal (d : AgentDocument) : AgentDocument :=
  { d with
    description := Text.filled? d.description
    workflows := d.workflows.map (·.normal)
    modules := d.modules.map (·.normal)
    prompts := d.prompts.map (·.normal)
    tools := d.tools.map (·.normal) }

theorem Text.nonempty?_getD_eq_filled? (description : Option String) :
    nonempty? (description.getD "") = filled? description := by
  cases description with
  | none => rfl
  | some text =>
    by_cases h : text = ""
    · subst h
      rfl
    · simp [nonempty?, filled?, Option.filter, h]

/-- If each document is normal once it is written again, so is a list of them. -/
theorem map_of_mapM_define {α β : Type} {define : β → Except Defect α} {document : α → β}
    {normal : β → β} (h : ∀ {d a}, define d = .ok a → document a = normal d) {ds : List β}
    {as : List α} (hm : ds.mapM define = .ok as) : as.map document = ds.map normal := by
  induction ds generalizing as with
  | nil =>
    cases hm
    rfl
  | cons d rest ih =>
    rw [List.mapM_cons] at hm
    obtain ⟨a, ha, htail⟩ := bind_eq_ok_iff.1 hm
    obtain ⟨later, hlater, he⟩ := bind_eq_ok_iff.1 htail
    cases he
    rw [List.map_cons, List.map_cons, h ha, ih hlater]

theorem CriteriaDocument.ofCriteria_of_define {d : CriteriaDocument} {criteria : Criteria}
    (h : d.define = .ok criteria) : ofCriteria criteria = d := by
  rw [define_eq] at h
  obtain ⟨hsuccess, hfailure⟩ := CriteriaDraft.finish_eq_ok_iff.1 h
  rw [ofCriteria, ← hsuccess, ← hfailure]

theorem NodeDocument.ofNode_of_define {d : NodeDocument} {node : Node}
    (h : d.define = .ok node) : ofNode node = d := by
  rw [define_eq] at h
  obtain ⟨-, hdraft⟩ := NodeDraft.finish_eq_ok_iff.1 h
  obtain ⟨name, goal, description, kind, reference, dependsOn, inputs, outputs⟩ := d
  cases hdraft
  rfl

theorem WorkflowDocument.ofWorkflow_of_define {d : WorkflowDocument} {w : Workflow}
    (h : d.define = .ok w) : ofWorkflow w = d.normal := by
  rw [define_eq] at h
  obtain ⟨nodes, hn, hf⟩ := bind_eq_ok_iff.1 h
  obtain ⟨hname, hdescription, hentry, hnodes⟩ := WorkflowDraft.finish_eq_ok_iff.1 hf
  dsimp only at hname hdescription hentry hnodes
  have hlist : nodes.map .ofNode = d.nodes.map id :=
    map_of_mapM_define NodeDocument.ofNode_of_define hn
  rw [List.map_id, hnodes] at hlist
  rw [ofWorkflow, normal, hlist, ← hname, ← hentry, ← hdescription,
    Text.nonempty?_getD_eq_filled?]

theorem CapabilityDocument.ofCapability_of_define {role : CapabilityRole}
    {d : CapabilityDocument} {capability : Capability} (h : d.define role = .ok capability) :
    ofCapability capability = d.normal := by
  rw [define_eq] at h
  obtain ⟨hname, hdescription, hinput, houtput⟩ := CapabilityDraft.finish_eq_ok_iff.1 h
  dsimp only at hname hdescription hinput houtput
  rw [ofCapability, normal, ← hname, ← hdescription, ← hinput, ← houtput,
    Text.nonempty?_getD_eq_filled?]

theorem PromptDocument.ofPrompt_of_define {d : PromptDocument} {prompt : Prompt}
    (h : d.define = .ok prompt) : ofPrompt prompt = d.normal := by
  rw [define_eq] at h
  obtain ⟨hname, hdescription, htemplate, hparameters⟩ := PromptDraft.finish_eq_ok_iff.1 h
  dsimp only at hname hdescription htemplate hparameters
  rw [ofPrompt, normal, ← hname, ← hdescription, ← htemplate, ← hparameters,
    Text.nonempty?_getD_eq_filled?]

namespace AgentDocument

theorem map_ofCriteria_of_define {d : Option CriteriaDocument} {criteria : Option Criteria}
    (h : defineCriteria d = .ok criteria) : criteria.map .ofCriteria = d := by
  cases d with
  | none =>
    cases h
    rfl
  | some d =>
    cases hd : d.define with
    | error defect =>
      rw [defineCriteria, hd] at h
      cases h
    | ok found =>
      rw [defineCriteria, hd] at h
      cases h
      rw [Option.map_some, CriteriaDocument.ofCriteria_of_define hd]

/-- A document that describes an agent is written for it again. Nothing is lost but empty
descriptions of the agent and of its workflows, modules, tools and prompts. -/
theorem ofAgent_of_define {d : AgentDocument} {agent : Agent} (h : d.define = .ok agent) :
    ofAgent agent = d.normal := by
  rw [define_eq] at h
  obtain ⟨criteria, hc, h⟩ := bind_eq_ok_iff.1 h
  obtain ⟨workflows, hw, h⟩ := bind_eq_ok_iff.1 h
  obtain ⟨modules, hm, h⟩ := bind_eq_ok_iff.1 h
  obtain ⟨prompts, hp, h⟩ := bind_eq_ok_iff.1 h
  obtain ⟨tools, ht, h⟩ := bind_eq_ok_iff.1 h
  obtain ⟨hdescription, hdraft⟩ := AgentDraft.finish_eq_ok_iff.1 h
  have hcriteria := map_ofCriteria_of_define hc
  have hworkflows := map_of_mapM_define WorkflowDocument.ofWorkflow_of_define hw
  have hmodules := map_of_mapM_define CapabilityDocument.ofCapability_of_define hm
  have hprompts := map_of_mapM_define PromptDocument.ofPrompt_of_define hp
  have htools := map_of_mapM_define CapabilityDocument.ofCapability_of_define ht
  obtain ⟨name, version, description, kind, goal, input, output, outlines, ms, ps, ts⟩ := d
  cases hdraft
  dsimp only at hdescription hcriteria hworkflows hmodules hprompts htools
  rw [ofAgent, normal, ← hdescription, hcriteria, hworkflows, hmodules, hprompts, htools,
    Text.nonempty?_getD_eq_filled?]

/-- A document with an empty description wherever there may be one, and with entries that repeat. -/
def hollow : AgentDocument where
  name := "a"
  version := ""
  description := ""
  kind := .composite
  criteria := some ⟨"", ""⟩
  outputSchema := some ⟨.null, trivial⟩
  workflows := [⟨"w", "", "n", [⟨"n", "", "", .tool, "t", ["n", "m", "n"], [""], ["b", "a"]⟩]⟩]
  modules := [⟨"m", "", none, none⟩, ⟨"m", none, none, none⟩]
  prompts := [⟨"p", "", "", ["x", "x"]⟩]
  tools := [⟨"t", "text", some ⟨.null, trivial⟩, none⟩]

theorem ofAgent_of_define_hollow : ∃ agent, hollow.define = .ok agent ∧
    ofAgent agent = hollow.normal ∧ (ofAgent agent).description = none ∧
      (ofAgent agent).workflows.map (·.nodes) = hollow.workflows.map (·.nodes) := by
  obtain ⟨agent, h⟩ : ∃ agent, hollow.define = .ok agent := ⟨_, rfl⟩
  have hn := ofAgent_of_define h
  exact ⟨agent, h, hn, by rw [hn]; rfl, by rw [hn]; rfl⟩

end AgentDocument

end AgentSpec
