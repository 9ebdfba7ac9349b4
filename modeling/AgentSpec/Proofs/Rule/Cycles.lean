import AgentSpec.Proofs.Graph.NamedCycles
import AgentSpec.Proofs.Rule.Severity
import AgentSpec.Rule.Dependencies

/-! The cycles that are reported for an agent: those of the dependencies in each of its workflows
and those of the calls between its workflows. -/
namespace AgentSpec

/-- A node named `b` needs `a`, and both are names of nodes. -/
def Workflow.Feeds (w : Workflow) (a b : String) : Prop :=
  a ∈ w.nodes.map (·.name) ∧ b ∈ w.nodes.map (·.name) ∧
    ∃ node ∈ w.nodes, node.name = b ∧ a ∈ node.dependsOn

/-- A workflow named `v` has a node that runs `w`, and both are names of workflows. -/
def Agent.Calls (agent : Agent) (v w : String) : Prop :=
  v ∈ agent.workflows.map (·.name) ∧ w ∈ agent.workflows.map (·.name) ∧
    ∃ workflow ∈ agent.workflows, workflow.name = v ∧
      ∃ node ∈ workflow.nodes, node.kind = .subworkflow ∧ node.reference = some w

theorem Workflow.mem_edges {w : Workflow} {a b : String} :
    (⟨a, b⟩ : Edge) ∈ w.edges ↔ ∃ node ∈ w.nodes, node.name = b ∧ a ∈ node.dependsOn := by
  simp only [edges, List.mem_flatMap, List.mem_map, Edge.mk.injEq]
  constructor
  · intro h
    obtain ⟨node, hn, source, hs, rfl, rfl⟩ := h
    exact ⟨node, hn, rfl, hs⟩
  · intro h
    obtain ⟨node, hn, rfl, ha⟩ := h
    exact ⟨node, hn, a, ha, rfl, rfl⟩

theorem links_ofWorkflow {w : Workflow} {a b : String} :
    (Graph.ofWorkflow w).Links a b ↔ w.Feeds a b := by
  unfold Graph.ofWorkflow
  rw [Graph.links_ofEdges, Workflow.mem_edges, Workflow.Feeds]

namespace Rule

theorem mem_calls {agent : Agent} {v w : String} :
    (⟨v, w⟩ : Edge) ∈ calls agent ↔ ∃ workflow ∈ agent.workflows, workflow.name = v ∧
      ∃ node ∈ workflow.nodes, node.kind = .subworkflow ∧ node.reference = some w := by
  simp only [calls, List.mem_flatMap, List.mem_filterMap]
  constructor
  · intro h
    obtain ⟨workflow, hw, node, hn, he⟩ := h
    split at he
    · rename_i hk
      obtain ⟨target, ht, he⟩ := Option.map_eq_some_iff.1 he
      cases he
      exact ⟨workflow, hw, rfl, node, hn, hk, ht⟩
    · cases he
  · intro h
    obtain ⟨workflow, hw, rfl, node, hn, hk, hr⟩ := h
    exact ⟨workflow, hw, node, hn, by rw [if_pos hk, hr]; rfl⟩

theorem links_callGraph {agent : Agent} {v w : String} :
    (callGraph agent).Links v w ↔ agent.Calls v w := by
  unfold callGraph
  rw [Graph.links_ofEdges, mem_calls, Agent.Calls]

/-- The paths of the cycles that findings report at a place. -/
def cyclePaths (place : Place) (findings : List Finding) : List (List String) :=
  findings.filterMap fun f =>
    match f.defect with
    | .cycle _ path => if f.place = place then some path else none
    | _ => none

theorem flatMap_zipIdx_at {α β : Type} {f : α × Nat → List β} {l : List α} {a : α} {i : Nat}
    (k : Nat) (h : l[i]? = some a) (hno : ∀ b j, j ≠ k + i → f (b, j) = []) :
    (l.zipIdx k).flatMap f = f (a, k + i) := by
  induction l generalizing i k with
  | nil => simp at h
  | cons b rest ih =>
    rw [List.zipIdx_cons, List.flatMap_cons]
    cases i with
    | zero =>
      cases h
      have hrest : (rest.zipIdx (k + 1)).flatMap f = [] := by
        rw [List.flatMap_eq_nil_iff]
        intro h hc
        obtain ⟨c, j⟩ := h
        have := List.le_snd_of_mem_zipIdx hc
        exact hno c j (by omega)
      rw [hrest, List.append_nil, Nat.add_zero]
    | succ i =>
      rw [hno b k (by omega), List.nil_append, ih (k + 1) (by simpa using h) fun c j hj =>
        hno c j (by omega)]
      congr 2
      omega

theorem cyclePaths_append (place : Place) (fs gs : List Finding) :
    cyclePaths place (fs ++ gs) = cyclePaths place fs ++ cyclePaths place gs :=
  List.filterMap_append

theorem cyclePaths_flatMap {α : Type} (place : Place) (l : List α) (f : α → List Finding) :
    cyclePaths place (l.flatMap f) = l.flatMap fun a => cyclePaths place (f a) :=
  List.filterMap_flatMap

theorem cyclePaths_map (place there : Place) (cycles : List (List Nat))
    (name : List Nat → String) (path : List Nat → List String) :
    cyclePaths place (cycles.map fun c => .error there (.cycle (name c) (path c))) =
      if there = place then cycles.map path else [] := by
  unfold cyclePaths
  rw [List.filterMap_map]
  split
  · rename_i h
    rw [← List.filterMap_eq_map]
    exact List.filterMap_congr fun c _ => if_pos h
  · rename_i h
    rw [List.filterMap_eq_nil_iff]
    exact fun c _ => if_neg h

theorem nodesPlace_inj {i j : Nat} :
    (Place.entry "workflows" i).field "nodes" = (Place.entry "workflows" j).field "nodes" ↔
      i = j := by
  simp [Place.entry, Place.field]

theorem nodesPlace_ne_top (i : Nat) :
    (Place.entry "workflows" i).field "nodes" ≠ .top "workflows" := by
  simp [Place.entry, Place.field, Place.top]

theorem cyclePaths_nodes {agent : Agent} {w : Workflow} {i : Nat}
    (h : agent.workflows[i]? = some w) :
    cyclePaths ((Place.entry "workflows" i).field "nodes") (cycleFindings agent) =
      (Graph.ofWorkflow w).cycles.map (Graph.ofWorkflow w).pathNames := by
  rw [cycleFindings, (emits_checkCycles agent).alone_eq]
  rw [cyclePaths_append, cyclePaths_flatMap, flatMap_zipIdx_at 0 h]
  · rw [cyclePaths_map, cyclePaths_map, if_pos (by rw [Nat.zero_add]),
      if_neg (nodesPlace_ne_top i).symm, List.append_nil]
  · intro b j hj
    rw [cyclePaths_map, if_neg fun he => hj (by rw [nodesPlace_inj.1 he, Nat.zero_add])]

theorem cyclePaths_workflows (agent : Agent) :
    cyclePaths (.top "workflows") (cycleFindings agent) =
      (callGraph agent).cycles.map (callGraph agent).pathNames := by
  rw [cycleFindings, (emits_checkCycles agent).alone_eq]
  rw [cyclePaths_append, cyclePaths_flatMap, cyclePaths_map, if_pos rfl]
  have hnil : ∀ p : Workflow × Nat, cyclePaths (.top "workflows")
      ((Graph.ofWorkflow p.1).cycles.map fun path =>
        .error ((Place.entry "workflows" p.2).field "nodes")
          (.cycle p.1.name ((Graph.ofWorkflow p.1).pathNames path))) = [] := fun p => by
    rw [cyclePaths_map, if_neg (nodesPlace_ne_top p.2)]
  rw [List.flatMap_eq_nil_iff.2 fun p _ => hnil p, List.nil_append]

theorem wellFormed_ofWorkflow (w : Workflow) : (Graph.ofWorkflow w).WellFormed :=
  Graph.wellFormed_ofEdges _ _

theorem wellFormed_callGraph (agent : Agent) : (callGraph agent).WellFormed :=
  Graph.wellFormed_ofEdges _ _

theorem links_ofWorkflow_eq (w : Workflow) : (Graph.ofWorkflow w).Links = w.Feeds := by
  funext a b
  exact propext links_ofWorkflow

theorem links_callGraph_eq (agent : Agent) : (callGraph agent).Links = agent.Calls := by
  funext a b
  exact propext links_callGraph

/-- There is an error just if some dependencies or some calls lead back to their start. -/
theorem cycles_error_iff {agent : Agent} : Lacks .error (cycleFindings agent) ↔
    (∀ w ∈ agent.workflows, Acyclic w.Feeds) ∧ Acyclic agent.Calls := by
  have hnil : ∀ (g : Graph) (f : List Nat → Finding), (∀ path, (f path).severity = .error) →
      (Lacks .error (g.cycles.map f) ↔ g.cycles = []) := fun g f hf => by
    rw [Lacks.map_iff, List.eq_nil_iff_forall_not_mem]
    exact forall₂_congr fun path _ => by simp [hf path]
  rw [cycleFindings, (emits_checkCycles agent).alone_eq, Lacks.append_iff, Lacks.flatMap_iff,
    ← forall_mem_zipIdx (l := agent.workflows), ← links_callGraph_eq,
    ← (wellFormed_callGraph agent).cycles_eq_nil_iff]
  refine and_congr (forall₂_congr fun p _ => ?_) (hnil _ _ fun _ => rfl)
  rw [← links_ofWorkflow_eq, ← (wellFormed_ofWorkflow p.1).cycles_eq_nil_iff]
  exact hnil _ _ fun _ => rfl

theorem cycles_no_warning {agent : Agent} : Lacks .warning (cycleFindings agent) := by
  rw [cycleFindings, (emits_checkCycles agent).alone_eq]
  rw [Lacks.append_iff, Lacks.flatMap_iff]
  refine ⟨fun p _ => ?_, ?_⟩ <;>
  · exact Lacks.map_iff.2 fun _ _ => nofun

/-- Without the edge that each reported cycle ends with, neither the dependencies of a workflow nor
the calls between workflows lead back anywhere. So where they do, a cycle is reported. -/
theorem cycles_complete (agent : Agent) :
    (∀ i w, agent.workflows[i]? = some w →
      let reported := cyclePaths ((Place.entry "workflows" i).field "nodes") (cycleFindings agent)
      Acyclic (fun a b => w.Feeds a b ∧ ∀ path ∈ reported, ¬ EndsWith path a b) ∧
        (reported = [] ↔ Acyclic w.Feeds)) ∧
    let reported := cyclePaths (.top "workflows") (cycleFindings agent)
    Acyclic (fun v w => agent.Calls v w ∧ ∀ path ∈ reported, ¬ EndsWith path v w) ∧
      (reported = [] ↔ Acyclic agent.Calls) := by
  refine ⟨fun i w h => ?_, ?_⟩
  · have hg := wellFormed_ofWorkflow w
    simp only [cyclePaths_nodes h, ← links_ofWorkflow_eq]
    exact ⟨hg.acyclic_links_remaining, by rw [List.map_eq_nil_iff, hg.cycles_eq_nil_iff]⟩
  · have hg := wellFormed_callGraph agent
    simp only [cyclePaths_workflows, ← links_callGraph_eq]
    exact ⟨hg.acyclic_links_remaining, by rw [List.map_eq_nil_iff, hg.cycles_eq_nil_iff]⟩

/-- Three nodes that need each other in turn. -/
def ring : Workflow where
  name := "ring"
  description := ""
  entryNode := "a"
  nodes := [⟨"a", "", none, .task, none, ["c"], [], []⟩,
    ⟨"b", "", none, .task, none, ["a"], [], []⟩,
    ⟨"c", "", none, .task, none, ["b"], [], []⟩]

/-- An agent with a ring of nodes and a workflow that runs itself. -/
def ringAgent : Agent where
  name := "rings"
  version := "1.0.0"
  description := ""
  kind := .composite
  goal := none
  criteria := none
  inputSchema := none
  outputSchema := none
  workflows := [ring,
    ⟨"again", "", "run", [⟨"run", "", none, .subworkflow, some "again", [], [], []⟩]⟩]
  modules := []
  prompts := []
  tools := []

theorem cycles_complete_ring :
    ringAgent.workflows[0]? = some ring ∧
      cyclePaths ((Place.entry "workflows" 0).field "nodes") (cycleFindings ringAgent) =
        [["a", "b", "c", "a"]] ∧ ¬ Acyclic ring.Feeds := by
  have hr : cyclePaths ((Place.entry "workflows" 0).field "nodes") (cycleFindings ringAgent) =
      [["a", "b", "c", "a"]] := by decide +kernel
  have hc := (cycles_complete ringAgent).1 0 ring rfl
  refine ⟨rfl, hr, fun hno => ?_⟩
  rw [hc.2.2 hno] at hr
  cases hr

/-- A reported cycle leads back to its first name along real edges and meets no other name twice.
No two cycles of one graph end with the same edge, so there are no more cycles than edges. -/
theorem cycles_sound (agent : Agent) :
    (∀ f ∈ cycleFindings agent, ∃ name path, f = .error f.place (.cycle name path) ∧
      ((∃ i w, agent.workflows[i]? = some w ∧
          f.place = (Place.entry "workflows" i).field "nodes" ∧ name = w.name ∧
          ClosedPath w.Feeds path) ∨
        (f.place = .top "workflows" ∧ path.head? = some name ∧ ClosedPath agent.Calls path))) ∧
    (∀ i w, agent.workflows[i]? = some w →
      let reported := cyclePaths ((Place.entry "workflows" i).field "nodes") (cycleFindings agent)
      (reported.Pairwise fun p q => ∀ a b, EndsWith p a b → ¬ EndsWith q a b) ∧
        reported.length ≤ {e : String × String | w.Feeds e.1 e.2}.ncard) ∧
    let reported := cyclePaths (.top "workflows") (cycleFindings agent)
    (reported.Pairwise fun p q => ∀ a b, EndsWith p a b → ¬ EndsWith q a b) ∧
      reported.length ≤ {e : String × String | agent.Calls e.1 e.2}.ncard := by
  refine ⟨fun f hf => ?_, fun i w h => ?_, ?_⟩
  · rw [cycleFindings, (emits_checkCycles agent).alone_eq, List.mem_append, List.mem_flatMap] at hf
    rcases hf with ⟨⟨w, i⟩, hw, hf⟩ | hf
    · obtain ⟨c, hc, rfl⟩ := List.mem_map.1 hf
      refine ⟨w.name, _, rfl, .inl ⟨i, w, List.mem_zipIdx_iff_getElem?.1 hw, rfl, rfl, ?_⟩⟩
      rw [← links_ofWorkflow_eq]
      exact (wellFormed_ofWorkflow w).closedPath_pathNames hc
    · obtain ⟨c, hc, rfl⟩ := List.mem_map.1 hf
      have hp := (wellFormed_callGraph agent).closedPath_pathNames hc
      refine ⟨_, _, rfl, .inr ⟨rfl, ?_, links_callGraph_eq agent ▸ hp⟩⟩
      cases hn : (callGraph agent).pathNames c with
      | nil => simpa [hn] using hp.two_le_length
      | cons first rest => rfl
  · have hg := wellFormed_ofWorkflow w
    simp only [cyclePaths_nodes h, ← links_ofWorkflow_eq, List.length_map]
    exact ⟨hg.pairwise_pathNames, hg.length_cycles_le (Graph.finite_links_ofEdges _ _)⟩
  · have hg := wellFormed_callGraph agent
    simp only [cyclePaths_workflows, ← links_callGraph_eq, List.length_map]
    exact ⟨hg.pairwise_pathNames, hg.length_cycles_le (Graph.finite_links_ofEdges _ _)⟩

theorem cycles_sound_ring :
    .error ((Place.entry "workflows" 0).field "nodes") (.cycle "ring" ["a", "b", "c", "a"]) ∈
        cycleFindings ringAgent ∧
      ringAgent.workflows[0]? = some ring ∧ ClosedPath ring.Feeds ["a", "b", "c", "a"] ∧
      1 ≤ {e : String × String | ring.Feeds e.1 e.2}.ncard := by
  have hm : .error ((Place.entry "workflows" 0).field "nodes")
      (.cycle "ring" ["a", "b", "c", "a"]) ∈ cycleFindings ringAgent := by decide +kernel
  have hr : cyclePaths ((Place.entry "workflows" 0).field "nodes") (cycleFindings ringAgent) =
      [["a", "b", "c", "a"]] := by decide +kernel
  obtain ⟨hsound, hcount, -⟩ := cycles_sound ringAgent
  have hle := (hcount 0 ring rfl).2
  rw [hr] at hle
  refine ⟨hm, rfl, ?_, hle⟩
  obtain ⟨name, path, hf, ⟨i, w, hw, hp, -, hc⟩ | ⟨hp, -⟩⟩ := hsound _ hm
  · cases hf
    obtain rfl := nodesPlace_inj.1 hp
    cases hw
    exact hc
  · exact (nodesPlace_ne_top 0 hp).elim

end Rule

end AgentSpec
