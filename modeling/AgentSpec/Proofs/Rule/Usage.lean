import AgentSpec.Draft.Capability
import AgentSpec.Proofs.Place
import AgentSpec.Proofs.Rule.Findings

/-!
Modules and tools without a use. For the report on them a reference uses every module and every
tool of its name, whatever the kind of the node. A reference resolves only to what its kind may
refer to. The two differ where a module and a tool share a name and only one of them is referred to.
-/
namespace AgentSpec

/-- Whether a node of the kind may refer to modules, or to tools. -/
def NodeKind.mayUse : NodeKind → CapabilityRole → Bool
  | .task, _ => true
  | .module, .module => true
  | .tool, .tool => true
  | .module, .tool => false
  | .tool, .module => false
  | .subworkflow, _ => false

namespace CapabilityRole

/-- The field of an agent that lists what has the role. -/
def collection : CapabilityRole → String
  | module => "modules"
  | tool => "tools"

theorem collection_inj {role other : CapabilityRole} (h : role.collection = other.collection) :
    role = other := by
  revert h
  cases role <;> cases other <;> decide

/-- There are no more than two roles. -/
theorem eq_or_eq {role other : CapabilityRole} (h : role ≠ other) (r : CapabilityRole) :
    r = role ∨ r = other := by
  revert h
  cases role <;> cases other <;> cases r <;> decide

theorem plain_entry (role : CapabilityRole) (i : Nat) :
    (Place.entry role.collection i).Plain := by
  have hname : (Step.field role.collection).Plain := by
    cases role <;> simp [collection, Step.Plain]
  intro step hs
  rw [Place.entry, List.mem_pair] at hs
  rcases hs with rfl | rfl
  · exact hname
  · exact trivial

/-- The modules and tools of an agent are told apart by their paths. -/
theorem path_inj {role other : CapabilityRole} {i j : Nat}
    (h : (Place.entry role.collection i).render = (Place.entry other.collection j).render) :
    role = other ∧ i = j := by
  have he := Place.render_inj (role.plain_entry i) (other.plain_entry j) h
  simp only [List.cons.injEq, Step.field.injEq, Step.item.injEq, and_true] at he
  exact ⟨collection_inj he.1, he.2⟩

end CapabilityRole

namespace Agent

/-- The modules or the tools. -/
def capabilities (agent : Agent) : CapabilityRole → List Capability
  | .module => agent.modules
  | .tool => agent.tools

/-- Some node whose reference resolves to a module, or to a tool, refers to the name. -/
def Employs (agent : Agent) (role : CapabilityRole) (name : String) : Prop :=
  ∃ w ∈ agent.workflows, ∃ node ∈ w.nodes,
    node.kind.mayUse role = true ∧ node.reference = some name

instance (agent : Agent) (role : CapabilityRole) (name : String) :
    Decidable (agent.Employs role name) :=
  inferInstanceAs (Decidable (∃ w ∈ agent.workflows, ∃ node ∈ w.nodes,
    node.kind.mayUse role = true ∧ node.reference = some name))

/-- There is a module and a tool of the name. -/
def Shares (agent : Agent) (name : String) : Prop :=
  ∀ role, name ∈ (agent.capabilities role).map (·.name)

/-- The module or the tool at an index is reported to have no use. -/
def ReportsUnused (agent : Agent) (role : CapabilityRole) (i : Nat) : Prop :=
  ∃ f ∈ Rule.usageFindings agent, f.path = (Place.entry role.collection i).render

/-- A module or a tool is reported exactly if no reference resolves to it. -/
def UsageFollowsReferences (agent : Agent) : Prop :=
  ∀ role i c, (agent.capabilities role)[i]? = some c →
    (agent.ReportsUnused role i ↔ ¬ agent.Employs role c.name)

variable {agent : Agent} {role other : CapabilityRole} {name : String}

theorem capabilityAt_iff {place : Place} {c : Capability} : agent.CapabilityAt place c ↔
    ∃ role i, place = Place.entry role.collection i ∧ (agent.capabilities role)[i]? = some c := by
  constructor
  · intro h
    cases h with
    | module h => exact ⟨.module, _, rfl, h⟩
    | tool h => exact ⟨.tool, _, rfl, h⟩
  · intro h
    obtain ⟨role, i, rfl, h⟩ := h
    cases role with
    | module => exact .module h
    | tool => exact .tool h

/-- A node that runs no workflow may refer to modules or to tools. -/
theorem uses_iff : agent.Uses name ↔ ∃ role, agent.Employs role name := by
  have hkind : ∀ kind : NodeKind, kind ≠ .subworkflow ↔ ∃ role, kind.mayUse role = true := by
    intro kind
    cases kind with
    | task => exact iff_of_true (by decide) ⟨.module, rfl⟩
    | module => exact iff_of_true (by decide) ⟨.module, rfl⟩
    | tool => exact iff_of_true (by decide) ⟨.tool, rfl⟩
    | subworkflow => exact iff_of_false (fun h => h rfl) fun ⟨role, h⟩ => by cases h
  constructor
  · intro h
    obtain ⟨w, hw, node, hn, hk, hr⟩ := h
    obtain ⟨role, hrole⟩ := (hkind node.kind).1 hk
    exact ⟨role, w, hw, node, hn, hrole, hr⟩
  · intro h
    obtain ⟨role, w, hw, node, hn, hrole, hr⟩ := h
    exact ⟨w, hw, node, hn, (hkind node.kind).2 ⟨role, hrole⟩, hr⟩

/-- What is reported has a name that no node refers to, be it as a module or as a tool. -/
theorem reportsUnused_iff {i : Nat} : agent.ReportsUnused role i ↔
    ∃ c, (agent.capabilities role)[i]? = some c ∧ ∀ other, ¬ agent.Employs other c.name := by
  have hunused : ∀ c : Capability, ¬ agent.Uses c.name ↔ ∀ other, ¬ agent.Employs other c.name :=
    fun c => (not_congr uses_iff).trans not_exists
  constructor
  · intro h
    obtain ⟨f, hf, hp⟩ := h
    cases (@Rule.mem_usageFindings [] _ _).1 hf with
    | @unused place c hc hu =>
      obtain ⟨there, j, rfl, hj⟩ := capabilityAt_iff.1 hc
      obtain ⟨rfl, rfl⟩ := CapabilityRole.path_inj hp
      exact ⟨c, hj, (hunused c).1 hu⟩
  · intro h
    obtain ⟨c, hi, hu⟩ := h
    have hc : agent.CapabilityAt (.entry role.collection i) c :=
      capabilityAt_iff.2 ⟨role, i, rfl, hi⟩
    have hf : Rule.Finds [] agent .unused _ := .unused hc ((hunused c).2 hu)
    exact ⟨_, Rule.mem_usageFindings.2 hf, rfl⟩

theorem reportsUnused_iff_of_getElem? {i : Nat} {c : Capability}
    (hi : (agent.capabilities role)[i]? = some c) :
    agent.ReportsUnused role i ↔ ∀ other, ¬ agent.Employs other c.name := by
  rw [reportsUnused_iff]
  constructor
  · intro h
    obtain ⟨found, hfound, hnone⟩ := h
    obtain rfl : c = found := Option.some.inj (hi.symm.trans hfound)
    exact hnone
  · intro h
    exact ⟨c, hi, h⟩

/-- A reference that can only be meant one way has its target there. -/
theorem Employs.offered (h : agent.HasTargets) (he : agent.Employs role name)
    (ho : ¬ agent.Employs other name) : name ∈ (agent.capabilities role).map (·.name) := by
  obtain ⟨w, hw, node, hn, hk, hr⟩ := he
  have htarget : agent.Offers node.kind name := h.references w hw node hn name hr
  have hother : ¬ node.kind.mayUse other = true := fun hk' => ho ⟨w, hw, node, hn, hk', hr⟩
  cases hkind : node.kind with
  | task =>
    rw [hkind] at hother
    exact (hother rfl).elim
  | subworkflow =>
    rw [hkind] at hk
    cases hk
  | module =>
    rw [hkind] at hk htarget
    cases role with
    | module => exact htarget
    | tool => cases hk
  | tool =>
    rw [hkind] at hk htarget
    cases role with
    | module => cases hk
    | tool => exact htarget

end Agent

namespace Rule

/-- Where all references have targets, modules and tools are reported if no node refers to the name
at all. They are then those to which no reference resolves, if of a module and a tool that share a
name never only one is referred to, and in no other case. -/
theorem usage_exact {agent : Agent} (h : referenceFindings agent = []) :
    (∀ role i, agent.ReportsUnused role i ↔ ∃ c, (agent.capabilities role)[i]? = some c ∧
      ∀ other, ¬ agent.Employs other c.name) ∧
    (agent.UsageFollowsReferences ↔ ∀ name, agent.Shares name →
      ∀ role other, agent.Employs role name → agent.Employs other name) := by
  have htargets : agent.HasTargets := by
    apply references_error_iff.1
    rw [h]
    exact Lacks.nil_iff.2 trivial
  refine ⟨fun role i => Agent.reportsUnused_iff, ?_, ?_⟩
  · intro hfollows name hshared role other he
    by_contra hno
    obtain ⟨c, hc, rfl⟩ := List.mem_map.1 (hshared other)
    obtain ⟨i, hi⟩ := List.getElem?_of_mem hc
    have hreported : agent.ReportsUnused other i := (hfollows other i c hi).2 hno
    exact (Agent.reportsUnused_iff_of_getElem? hi).1 hreported role he
  · intro hshared role i c hi
    rw [Agent.reportsUnused_iff_of_getElem? hi]
    constructor
    · intro hnone
      exact hnone role
    · intro hno other he
      have hhere : c.name ∈ (agent.capabilities role).map (·.name) :=
        List.mem_map_of_mem (List.mem_of_getElem? hi)
      have hthere := he.offered htargets hno
      have hne : role ≠ other := fun heq => hno (heq ▸ he)
      have hboth : agent.Shares c.name := by
        intro r
        rcases CapabilityRole.eq_or_eq hne r with rfl | rfl
        · exact hhere
        · exact hthere
      exact hno (hshared c.name hboth other role he)

/-- A module and a tool of one name in an agent with one node, which refers to that name. -/
def searcher (kind : NodeKind) : Agent where
  name := "searcher"
  version := "1.0.0"
  description := ""
  kind := .atomic
  goal := none
  criteria := none
  inputSchema := none
  outputSchema := none
  workflows := [⟨"main", "", "find", [⟨"find", "Find it", none, kind, some "search", [], [], []⟩]⟩]
  modules := [⟨"search", "", none, none⟩]
  prompts := []
  tools := [⟨"search", "", none, none⟩]

/-- The reference of a task is one to the module and to the tool. -/
theorem usage_exact_searcher :
    referenceFindings (searcher .task) = [] ∧ (searcher .task).UsageFollowsReferences := by
  have hnone : referenceFindings (searcher .task) = [] := by decide +kernel
  obtain ⟨-, hfollows⟩ := usage_exact hnone
  refine ⟨hnone, hfollows.2 fun name _ role other he => ?_⟩
  obtain ⟨w, hw, node, hn, -, hr⟩ := he
  obtain rfl := List.mem_singleton.1 hw
  obtain rfl := List.mem_singleton.1 hn
  exact ⟨_, List.mem_singleton_self _, _, List.mem_singleton_self _, rfl, hr⟩

/-- The reference of a tool node is none to the module, which still is not reported. -/
theorem usage_ignores_kind :
    referenceFindings (searcher .tool) = [] ∧ ¬ (searcher .tool).Employs .module "search" ∧
      ¬ (searcher .tool).ReportsUnused .module 0 ∧
      ¬ (searcher .tool).UsageFollowsReferences := by
  have hno : ¬ (searcher .tool).Employs .module "search" := by decide
  have hnothing : usageFindings (searcher .tool) = [] := by decide +kernel
  have hunreported : ¬ (searcher .tool).ReportsUnused .module 0 := by
    intro h
    obtain ⟨f, hf, -⟩ := h
    rw [hnothing] at hf
    cases hf
  refine ⟨by decide +kernel, hno, hunreported, fun hfollows => hunreported ?_⟩
  exact (hfollows .module 0 ⟨"search", "", none, none⟩ rfl).2 hno

end Rule

end AgentSpec
