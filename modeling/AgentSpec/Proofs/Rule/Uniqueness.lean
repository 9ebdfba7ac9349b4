import AgentSpec.Proofs.Place
import AgentSpec.Proofs.Rule.Collections
import AgentSpec.Proofs.Rule.Recounts
import AgentSpec.Proofs.Template

/-! The names that occur more than once in a list of an agent. Each is reported once for its list,
however often it occurs there, and in the order in which the names occur first. -/
namespace AgentSpec

/-- A list of entities whose names should be distinct. -/
inductive NameScope where
  | workflows
  | modules
  | prompts
  | tools
  /-- The nodes of the workflow at an index. -/
  | nodes (i : Nat)
deriving DecidableEq

namespace NameScope

def place : NameScope → Place
  | workflows => .top "workflows"
  | modules => .top "modules"
  | prompts => .top "prompts"
  | tools => .top "tools"
  | nodes i => (Place.entry "workflows" i).field "nodes"

def path (s : NameScope) : String := s.place.render

/-- The lists of the agent itself come before those of its workflows. -/
def rank : NameScope → Nat
  | workflows => 0
  | modules => 1
  | prompts => 2
  | tools => 3
  | nodes i => 4 + i

theorem place_inj {s t : NameScope} (h : s.place = t.place) : s = t := by
  revert h
  cases s <;> cases t <;> simp [place, Place.top, Place.entry, Place.field]

theorem rooted_place (s : NameScope) : s.place.Rooted where
  plain := by
    cases s <;> simp [place, Place.top, Place.entry, Place.field, Place.Plain, Step.Plain]
  field := by
    cases s <;> exact ⟨_, _, rfl⟩

theorem path_inj {s t : NameScope} (h : s.path = t.path) : s = t :=
  place_inj (s.rooted_place.eq_of_render_eq t.rooted_place h)

end NameScope

/-- A name in one of the lists of an agent. -/
structure ScopedName where
  scope : NameScope
  name : String
deriving DecidableEq

namespace Agent

/-- The names in a list, in order; there are none for a workflow that does not exist. -/
def namesIn (agent : Agent) : NameScope → List String
  | .workflows => agent.workflows.map (·.name)
  | .modules => agent.modules.map (·.name)
  | .prompts => agent.prompts.map (·.name)
  | .tools => agent.tools.map (·.name)
  | .nodes i => (agent.workflows[i]?.map fun w => w.nodes.map (·.name)).getD []

/-- The text by which reports call a list. Workflows of one name have lists of one text. -/
def scopeText (agent : Agent) : NameScope → String
  | .workflows => "workflows" ++ " of agent '" ++ agent.name ++ "'"
  | .modules => "modules" ++ " of agent '" ++ agent.name ++ "'"
  | .prompts => "prompts" ++ " of agent '" ++ agent.name ++ "'"
  | .tools => "tools" ++ " of agent '" ++ agent.name ++ "'"
  | .nodes i => "nodes of workflow '" ++ (agent.workflows[i]?.map (·.name)).getD "" ++ "'"

/-- The name occurs at least twice in the list. -/
def Repeats (agent : Agent) (r : ScopedName) : Prop := 2 ≤ (agent.namesIn r.scope).count r.name

instance (agent : Agent) : DecidablePred agent.Repeats := fun r =>
  inferInstanceAs (Decidable (2 ≤ (agent.namesIn r.scope).count r.name))

/-- Lists stand in their order, and in a list the names stand as they occur there first. -/
def OccursBefore (agent : Agent) (r s : ScopedName) : Prop :=
  r.scope.rank < s.scope.rank ∨
    r.scope = s.scope ∧
      (agent.namesIn r.scope).idxOf r.name < (agent.namesIn r.scope).idxOf s.name

/-- The report on a name that occurs more than once. -/
def repetition (agent : Agent) (r : ScopedName) : Finding :=
  .error r.scope.place (.duplicate (agent.scopeText r.scope) r.name)

variable {agent : Agent}

theorem namesIn_nodes {i : Nat} {w : Workflow} (h : agent.workflows[i]? = some w) :
    agent.namesIn (.nodes i) = w.nodes.map (·.name) := by
  simp only [namesIn, h, Option.map_some, Option.getD_some]

theorem scopeText_nodes {i : Nat} {w : Workflow} (h : agent.workflows[i]? = some w) :
    agent.scopeText (.nodes i) = "nodes of workflow '" ++ w.name ++ "'" := by
  show "nodes of workflow '" ++ (agent.workflows[i]?.map (·.name)).getD "" ++ "'" = _
  rw [h, Option.map_some, Option.getD_some]

theorem not_occursBefore_self (r : ScopedName) : ¬ agent.OccursBefore r r := by
  intro h
  rcases h with h | ⟨-, h⟩
  · exact Nat.lt_irrefl _ h
  · exact Nat.lt_irrefl _ h

theorem repetition_injective : Function.Injective agent.repetition := by
  intro r s h
  obtain ⟨scope, name⟩ := r
  obtain ⟨other, name'⟩ := s
  simp only [repetition, Finding.error, Finding.mk.injEq, true_and] at h
  obtain ⟨hplace, hdefect⟩ := h
  obtain rfl := NameScope.place_inj hplace
  rw [Defect.duplicate.injEq] at hdefect
  rw [hdefect.2]

end Agent

namespace Rule

variable {agent : Agent}

/-- The table of a list has its names in the order in which they occur first. -/
theorem toList_names_ofList (names : List String) :
    (NameTable.ofList names).names.toList = Template.distinct names := by
  induction names using List.reverseRecOn with
  | nil => rfl
  | append_singleton front last ih =>
    have hlast : NameTable.ofList (front ++ [last]) = (NameTable.ofList front).insert last :=
      List.foldl_concat ..
    have hknown : (NameTable.ofList front).contains last = true ↔
        (Template.distinct front).contains last = true := by
      rw [NameTable.contains_ofList, List.contains_iff_mem, Template.mem_distinct]
    rw [hlast, Template.distinct_concat]
    by_cases h : (NameTable.ofList front).contains last = true
    · rw [NameTable.insert_of_contains h, if_pos (hknown.1 h), ih]
    · rw [NameTable.insert_of_new h, if_neg fun hd => h (hknown.2 hd), Array.toList_push, ih]

/-- In a list every name that occurs more than once is found, in the order of first occurrence. -/
theorem recounts_checkRepetitions (scope : String) (place : Place) (names : List String) :
    Recounts (fun name => 2 ≤ names.count name) (fun a b => names.idxOf a < names.idxOf b)
      (fun name => .error place (.duplicate scope name))
      (checkRepetitions scope place names).alone := by
  have hrepeated : repeated names =
      (Template.distinct names).filter fun name => 1 < names.count name := by
    rw [repeated_eq, toList_names_ofList]
  refine ⟨repeated names, ?_, fun name => ?_, (emits_checkRepetitions scope place names).alone_eq⟩
  · rw [hrepeated]
    exact (Template.pairwise_distinct names).filter _
  · rw [hrepeated, List.mem_filter, Template.mem_distinct, decide_eq_true_eq]
    constructor
    · exact fun h => h.2
    · intro h
      have hpos : 0 < names.count name := by omega
      exact ⟨List.count_pos_iff.1 hpos, h⟩

/-- What is found in a list is about the names of that list. -/
theorem recounts_scope (agent : Agent) (s : NameScope) :
    Recounts (fun r => r.scope = s ∧ agent.Repeats r) agent.OccursBefore agent.repetition
      (checkRepetitions (agent.scopeText s) s.place (agent.namesIn s)).alone := by
  have hnames := recounts_checkRepetitions (agent.scopeText s) s.place (agent.namesIn s)
  have hordered : ∀ a b, (agent.namesIn s).idxOf a < (agent.namesIn s).idxOf b →
      agent.OccursBefore ⟨s, a⟩ ⟨s, b⟩ := fun a b hab => .inr ⟨rfl, hab⟩
  refine (Recounts.image hordered hnames).of_iff fun r => ?_
  obtain ⟨scope, name⟩ := r
  constructor
  · intro h
    obtain ⟨rfl, hr⟩ := h
    exact ⟨name, hr, rfl⟩
  · intro h
    obtain ⟨_, hr, he⟩ := h
    cases he
    exact ⟨rfl, hr⟩

/-- What is found among the nodes of all workflows is about those lists of nodes. -/
theorem recounts_nodes (agent : Agent) :
    Recounts (fun r => ∃ p ∈ agent.workflows.zipIdx, r.scope = .nodes p.2 ∧ agent.Repeats r)
      agent.OccursBefore agent.repetition
      (agent.workflows.zipIdx.flatMap fun (w, i) =>
        (checkRepetitions ("nodes of workflow '" ++ w.name ++ "'")
          ((Place.entry "workflows" i).field "nodes") (w.nodes.map (·.name))).alone) := by
  refine Recounts.zipIdx (fun p hp => ?_) fun p q a b hlt ha hb => ?_
  · have hw := List.mem_zipIdx_iff_getElem?.1 hp
    have hscope := recounts_scope agent (.nodes p.2)
    rw [Agent.scopeText_nodes hw, Agent.namesIn_nodes hw] at hscope
    exact hscope
  · have hrank : (NameScope.nodes p.2).rank < (NameScope.nodes q.2).rank :=
      Nat.add_lt_add_left hlt 4
    rw [← ha.1, ← hb.1] at hrank
    exact .inl hrank

theorem recounts_uniquenessFindings (agent : Agent) :
    Recounts agent.Repeats agent.OccursBefore agent.repetition (uniquenessFindings agent) := by
  have hbefore : ∀ {s : NameScope} {a b : ScopedName}, a.scope = s → s.rank < b.scope.rank →
      agent.OccursBefore a b := fun ha hlt => .inl (ha ▸ hlt)
  -- the four lists of the agent and then those of the workflows, with growing ranks
  have hmodules := (recounts_scope agent .workflows).append (recounts_scope agent .modules)
    fun a b ha hb => hbefore ha.1 (by rw [hb.1]; decide)
  have hprompts := hmodules.append (recounts_scope agent .prompts) fun a b ha hb => by
    rcases ha with ha | ha
    all_goals exact hbefore ha.1 (by rw [hb.1]; decide)
  have htools := hprompts.append (recounts_scope agent .tools) fun a b ha hb => by
    rcases ha with (ha | ha) | ha
    all_goals exact hbefore ha.1 (by rw [hb.1]; decide)
  have hnodes := htools.append (recounts_nodes agent) fun a b ha hb => by
    obtain ⟨p, -, hb, -⟩ := hb
    have hrank : b.scope.rank = 4 + p.2 := by rw [hb]; rfl
    rcases ha with ((ha | ha) | ha) | ha
    all_goals
      refine hbefore ha.1 ?_
      rw [hrank]
      exact Nat.lt_of_lt_of_le (by decide) (Nat.le_add_right 4 p.2)
  rw [uniquenessFindings, (emits_checkUniqueness agent).alone_eq]
  refine hnodes.of_iff fun r => ?_
  constructor
  · intro hr
    obtain ⟨scope, name⟩ := r
    cases scope with
    | workflows => exact .inl (.inl (.inl (.inl ⟨rfl, hr⟩)))
    | modules => exact .inl (.inl (.inl (.inr ⟨rfl, hr⟩)))
    | prompts => exact .inl (.inl (.inr ⟨rfl, hr⟩))
    | tools => exact .inl (.inr ⟨rfl, hr⟩)
    | nodes i =>
      cases hw : agent.workflows[i]? with
      | none =>
        have hnone : agent.namesIn (.nodes i) = [] := by simp [Agent.namesIn, hw]
        rw [Agent.Repeats, hnone, List.count_nil] at hr
        omega
      | some w => exact .inr ⟨(w, i), List.mem_zipIdx_iff_getElem?.2 hw, rfl, hr⟩
  · intro hr
    rcases hr with (((hr | hr) | hr) | hr) | ⟨_, -, hr⟩
    all_goals exact hr.2

theorem count_repetition (agent : Agent) (r : ScopedName) :
    (uniquenessFindings agent).count (agent.repetition r) = if agent.Repeats r then 1 else 0 := by
  have hall := recounts_uniquenessFindings agent
  have hnodup : (uniquenessFindings agent).Nodup :=
    hall.nodup Agent.not_occursBefore_self fun r s _ _ he => Agent.repetition_injective he
  split
  · rename_i hr
    exact List.count_eq_one_of_mem hnodup (hall.mem_iff.2 ⟨r, hr, rfl⟩)
  · rename_i hr
    refine List.count_eq_zero_of_not_mem fun hmem => hr ?_
    obtain ⟨s, hs, he⟩ := hall.mem_iff.1 hmem
    rwa [← Agent.repetition_injective he]

/-- A name is reported for a list exactly if it occurs there more than once, and then once. The
reports stand in the order of the lists and in a list in the order of first occurrence. A list is
spared exactly if its names are distinct, whatever occurs in other lists. -/
theorem uniqueness_exact (agent : Agent) :
    Recounts agent.Repeats agent.OccursBefore agent.repetition (uniquenessFindings agent) ∧
    (∀ r, (uniquenessFindings agent).count (agent.repetition r) =
      if agent.Repeats r then 1 else 0) ∧
    ∀ s : NameScope, (∀ f ∈ uniquenessFindings agent, f.path ≠ s.path) ↔
      (agent.namesIn s).Nodup := by
  have hall := recounts_uniquenessFindings agent
  refine ⟨hall, count_repetition agent, fun s => ?_⟩
  rw [List.nodup_iff_count_le_one]
  constructor
  · intro h name
    by_contra hlt
    have hr : agent.Repeats ⟨s, name⟩ := Nat.lt_of_not_le hlt
    exact h _ (hall.mem_iff.2 ⟨_, hr, rfl⟩) rfl
  · intro h f hf hpath
    obtain ⟨r, hr, rfl⟩ := hall.mem_iff.1 hf
    have hscope : r.scope = s := NameScope.path_inj hpath
    have hone := h r.name
    rw [Agent.Repeats, hscope] at hr
    omega

/-- Two workflows of one name, of which both have a node `b` that is declared again. -/
def namesakes : Agent where
  name := "namesakes"
  version := "1.0.0"
  description := ""
  kind := .atomic
  goal := none
  criteria := none
  inputSchema := none
  outputSchema := none
  workflows := [
    ⟨"main", "", "a", ["a", "b", "c", "b", "a", "b"].map fun name =>
      ⟨name, "", none, .task, none, [], [], []⟩⟩,
    ⟨"main", "", "a", ["a", "b", "b"].map fun name =>
      ⟨name, "", none, .task, none, [], [], []⟩⟩]
  modules := [⟨"a", "", none, none⟩]
  prompts := []
  tools := [⟨"a", "", none, none⟩]

example : uniquenessFindings namesakes =
    [namesakes.repetition ⟨.workflows, "main"⟩, namesakes.repetition ⟨.nodes 0, "a"⟩,
      namesakes.repetition ⟨.nodes 0, "b"⟩, namesakes.repetition ⟨.nodes 1, "b"⟩] := by
  decide +kernel

end Rule

end AgentSpec
