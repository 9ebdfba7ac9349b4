import AgentSpec.Proofs.Rule.Cycles
import AgentSpec.Proofs.Rule.References
import Mathlib.Tactic.TFAE

/-! What depends on what in a workflow is the same whether its edges are asked, the nodes of either
side, or one of the two ends at which its graph keeps an edge. -/
namespace AgentSpec

/-- The predecessors that are kept for `b` hold `a`. -/
def Graph.LinksBack (g : Graph) (b a : String) : Prop :=
  ∃ i j, g.table.number? a = some i ∧ g.table.number? b = some j ∧ i ∈ g.previous j

theorem Graph.WellFormed.linksBack_iff {g : Graph} (h : g.WellFormed) {a b : String} :
    g.LinksBack b a ↔ g.Links a b := by
  simp only [Graph.LinksBack, Graph.Links, h.mem_previous]

namespace Workflow

variable {w : Workflow} {a b : String} {m n : Node}

theorem mem_dependents : n ∈ w.dependents a ↔ n ∈ w.nodes ∧ a ∈ n.dependsOn := by
  simp [dependents, List.mem_filter]

theorem exists_dependent_iff :
    (∃ node ∈ w.dependents a, node.name = b) ↔ (⟨a, b⟩ : Edge) ∈ w.edges := by
  rw [mem_edges]
  constructor
  · intro h
    obtain ⟨node, hd, hname⟩ := h
    obtain ⟨hn, ha⟩ := mem_dependents.1 hd
    exact ⟨node, hn, hname, ha⟩
  · intro h
    obtain ⟨node, hn, hname, ha⟩ := h
    exact ⟨node, mem_dependents.2 ⟨hn, ha⟩, hname⟩

theorem links_iff_edge (ha : w.Declares a) (hb : w.Declares b) :
    (Graph.ofWorkflow w).Links a b ↔ (⟨a, b⟩ : Edge) ∈ w.edges := by
  rw [links_ofWorkflow, mem_edges]
  exact ⟨fun h => h.2.2, fun h => ⟨ha, hb, h⟩⟩

/-- Where names are unique every node is found by its name. -/
theorem node?_name (hu : (w.nodes.map (·.name)).Nodup) (hn : n ∈ w.nodes) :
    w.node? n.name = some n := by
  have hsome : (w.node? n.name).isSome := by
    rw [node?, List.find?_isSome]
    exact ⟨n, hn, by simp⟩
  obtain ⟨found, hf⟩ := Option.isSome_iff_exists.1 hsome
  have hname : found.name = n.name := by simpa using List.find?_some hf
  rw [hf, List.inj_on_of_nodup_map hu (List.mem_of_find?_eq_some hf) hn hname]

theorem mem_dependencies_iff (hu : (w.nodes.map (·.name)).Nodup) (hm : m ∈ w.nodes)
    (hn : n ∈ w.nodes) : m ∈ w.dependencies n.name ↔ n ∈ w.dependents m.name := by
  rw [dependencies, node?_name hu hn, mem_dependents, List.mem_filterMap]
  constructor
  · intro h
    obtain ⟨source, hs, hf⟩ := h
    have hname : m.name = source := by simpa using List.find?_some hf
    exact ⟨hn, hname ▸ hs⟩
  · intro h
    exact ⟨m.name, h.2, node?_name hu hm⟩

theorem edge_iff_mem_dependents (hu : (w.nodes.map (·.name)).Nodup) (hn : n ∈ w.nodes) :
    (⟨a, n.name⟩ : Edge) ∈ w.edges ↔ n ∈ w.dependents a := by
  rw [← exists_dependent_iff]
  constructor
  · intro h
    obtain ⟨node, hd, hname⟩ := h
    rwa [← List.inj_on_of_nodup_map hu (mem_dependents.1 hd).1 hn hname]
  · exact fun h => ⟨n, h, rfl⟩

/-- The numbers at both ends of an edge are those of names of nodes. -/
theorem exists_names_of_mem_next {i j : Nat} (h : j ∈ (Graph.ofWorkflow w).next i) :
    ∃ a b, w.Declares a ∧ w.Declares b ∧ (Graph.ofWorkflow w).table.number? a = some i ∧
      (Graph.ofWorkflow w).table.number? b = some j := by
  obtain ⟨e, -, hi, hj⟩ := Graph.mem_next_ofEdges.1 h
  have ha : w.Declares e.source := (NameTable.exists_number?_iff _ _).1 ⟨i, hi⟩
  have hb : w.Declares e.target := (NameTable.exists_number?_iff _ _).1 ⟨j, hj⟩
  rw [Graph.ofWorkflow, Graph.table_ofEdges]
  exact ⟨_, _, ha, hb, hi, hj⟩

/-- That one name feeds another is told alike by the graph, at either end of its edge, by the nodes
that depend on a name, and by the edges of the workflow. The graph keeps no predecessor twice and
has no numbers but those of names. Where names are unique, the nodes that a node depends on tell
the same. -/
theorem queries_agree (w : Workflow) :
    (∀ a b, w.Declares a → w.Declares b →
      [(Graph.ofWorkflow w).Links a b, (Graph.ofWorkflow w).LinksBack b a,
        ∃ node ∈ w.dependents a, node.name = b, (⟨a, b⟩ : Edge) ∈ w.edges].TFAE) ∧
    (∀ j, ((Graph.ofWorkflow w).previous j).toList.Nodup) ∧
    (∀ i j, j ∈ (Graph.ofWorkflow w).next i ∨ i ∈ (Graph.ofWorkflow w).previous j →
      ∃ a b, w.Declares a ∧ w.Declares b ∧ (Graph.ofWorkflow w).table.number? a = some i ∧
        (Graph.ofWorkflow w).table.number? b = some j) ∧
    ((w.nodes.map (·.name)).Nodup → ∀ m ∈ w.nodes, ∀ n ∈ w.nodes,
      [(Graph.ofWorkflow w).Links m.name n.name, m ∈ w.dependencies n.name,
        n ∈ w.dependents m.name].TFAE) := by
  have hg := Rule.wellFormed_ofWorkflow w
  refine ⟨fun a b ha hb => ?_, hg.previous_nodup, fun i j h => ?_, fun hu m hm n hn => ?_⟩
  · tfae_have 1 ↔ 2 := hg.linksBack_iff.symm
    tfae_have 1 ↔ 4 := links_iff_edge ha hb
    tfae_have 3 ↔ 4 := exists_dependent_iff
    tfae_finish
  · exact exists_names_of_mem_next (h.elim id hg.mem_previous.1)
  · tfae_have 1 ↔ 3 := (links_iff_edge (List.mem_map_of_mem hm) (List.mem_map_of_mem hn)).trans
      (edge_iff_mem_dependents hu hn)
    tfae_have 2 ↔ 3 := mem_dependencies_iff hu hm hn
    tfae_finish

/-- A node with a name and dependencies alone. -/
def waiting (name : String) (dependsOn : List String) : Node :=
  ⟨name, "", none, .task, none, dependsOn, [], []⟩

/-- Two nodes in a circle, one of which is declared twice; a dependency comes twice as well, and
another one has no node. -/
def relay : Workflow :=
  ⟨"relay", "", "a", [waiting "a" ["b", "b", "gone"], waiting "b" [], waiting "b" ["a"]]⟩

/-- The same with a single node of each name. -/
def pair : Workflow := ⟨"pair", "", "a", [waiting "a" ["b", "b", "gone"], waiting "b" ["a"]]⟩

theorem queries_agree_relay : relay.Declares "a" ∧ relay.Declares "b" ∧
    (Graph.ofWorkflow relay).LinksBack "b" "a" ∧ (pair.nodes.map (·.name)).Nodup ∧
    waiting "b" ["a"] ∈ pair.dependencies "a" := by
  obtain ⟨hsame, -⟩ := queries_agree relay
  obtain ⟨-, -, -, hunique⟩ := queries_agree pair
  have ha : relay.Declares "a" := by unfold Declares; decide
  have hb : relay.Declares "b" := by unfold Declares; decide
  have hu : (pair.nodes.map (·.name)).Nodup := by decide
  have hm : waiting "b" ["a"] ∈ pair.nodes := by decide
  have hn : waiting "a" ["b", "b", "gone"] ∈ pair.nodes := by decide
  have hedge : (⟨"a", "b"⟩ : Edge) ∈ relay.edges := mem_edges.2 ⟨waiting "b" ["a"], by decide⟩
  have hdependent : waiting "a" ["b", "b", "gone"] ∈ pair.dependents "b" :=
    mem_dependents.2 ⟨hn, by decide⟩
  exact ⟨ha, hb, ((hsame "a" "b" ha hb).out 1 3).2 hedge, hu,
    ((hunique hu _ hm _ hn).out 1 2).2 hdependent⟩

end Workflow

end AgentSpec
