import AgentSpec.Proofs.Graph.Cycles

/-! The cycles of a graph by the names of its nodes. -/
namespace AgentSpec.Graph

variable {g : Graph}

theorem lt_size_of_closedPath (hg : g.WellFormed) {path : List Nat}
    (h : ClosedPath g.Adjacent path) {a : Nat} (ha : a ∈ path) : a < g.size := by
  obtain ⟨i, hi, rfl⟩ := List.getElem_of_mem ha
  have hc := List.isChain_iff_getElem.1 h.chain
  by_cases hlast : i + 1 < path.length
  · exact lt_of_mem_next (hc i hlast)
  · have hl := h.two_le_length
    obtain ⟨k, rfl⟩ : ∃ k, i = k + 1 := ⟨i - 1, by omega⟩
    exact hg.next_lt (hc k hi)

namespace WellFormed

variable (hg : g.WellFormed)
include hg

theorem name_inj {i j : Nat} (hi : i < g.size) (hj : j < g.size)
    (h : g.table.name i = g.table.name j) : i = j :=
  hg.consistent.name_inj (hg.table_size ▸ hi) (hg.table_size ▸ hj) h

theorem closedPath_pathNames {path : List Nat} (h : path ∈ g.cycles) :
    ClosedPath g.Links (g.pathNames path) := by
  have hc := hg.closedPath_of_mem_cycles h
  exact hc.map _ (fun a b hab => hg.links_name hab) fun a ha b hb =>
    hg.name_inj (lt_size_of_closedPath hg hc ha) (lt_size_of_closedPath hg hc hb)

/-- The last edge by names is the last edge by numbers. -/
theorem endsWith_of_pathNames {path : List Nat} (h : path ∈ g.cycles) {x y : String}
    (he : EndsWith (g.pathNames path) x y) :
    ∃ a b, EndsWith path a b ∧ g.table.name a = x ∧ g.table.name b = y := by
  obtain ⟨a, b, hab⟩ := exists_endsWith (hg.closedPath_of_mem_cycles h).two_le_length
  obtain ⟨ha, hb⟩ := (hab.map g.table.name).unique he
  exact ⟨a, b, hab, ha, hb⟩

theorem pairwise_pathNames : (g.cycles.map g.pathNames).Pairwise fun p q =>
    ∀ x y, EndsWith p x y → ¬ EndsWith q x y := by
  rw [List.pairwise_map]
  refine hg.pairwise_cycles.imp_of_mem fun {p q} hp hq hpq x y hpx hqx => ?_
  obtain ⟨a, b, hab, rfl, rfl⟩ := hg.endsWith_of_pathNames hp hpx
  obtain ⟨c, d, hcd, hc, hd⟩ := hg.endsWith_of_pathNames hq hqx
  have hp' := hg.closedPath_of_mem_cycles hp
  have hq' := hg.closedPath_of_mem_cycles hq
  have hac : a = c := hg.name_inj (lt_size_of_closedPath hg hp' (hab.subset (by simp)))
    (lt_size_of_closedPath hg hq' (hcd.subset (by simp))) hc.symm
  have hbd : b = d := hg.name_inj (lt_size_of_closedPath hg hp' (hab.subset (by simp)))
    (lt_size_of_closedPath hg hq' (hcd.subset (by simp))) hd.symm
  subst hac hbd
  exact hpq a b hab hcd

theorem acyclic_links_remaining : Acyclic fun x y =>
    g.Links x y ∧ ∀ path ∈ g.cycles.map g.pathNames, ¬ EndsWith path x y := by
  refine hg.acyclic_remaining.of_map (fun x => (g.table.number? x).getD 0) fun x y h => ?_
  obtain ⟨⟨i, j, hx, hy, hij⟩, hno⟩ := h
  rw [hx, hy, Option.getD_some, Option.getD_some]
  refine ⟨hij, fun path hp he => hno _ (List.mem_map_of_mem hp) ?_⟩
  have hn := he.map g.table.name
  rwa [hg.consistent.name_number? hx, hg.consistent.name_number? hy] at hn

/-- There are cycles to report exactly if the edges lead back somewhere. -/
theorem cycles_eq_nil_iff : g.cycles = [] ↔ Acyclic g.Links := by
  constructor
  · intro h
    refine hg.acyclic_links_remaining.mono fun x y hxy => ⟨hxy, ?_⟩
    simp [h]
  · intro h
    by_contra hne
    obtain ⟨path, hp⟩ := List.exists_mem_of_ne_nil _ hne
    exact (hg.closedPath_pathNames hp).not_acyclic h

/-- Every cycle has an edge of its own. -/
theorem length_cycles_le (hfin : {e : String × String | g.Links e.1 e.2}.Finite) :
    g.cycles.length ≤ {e : String × String | g.Links e.1 e.2}.ncard := by
  have hl := length_le_ncard hfin hg.pairwise_pathNames fun path hp => by
    obtain ⟨p, hmem, rfl⟩ := List.mem_map.1 hp
    have hc := hg.closedPath_pathNames hmem
    obtain ⟨a, b, hab⟩ := exists_endsWith hc.two_le_length
    exact ⟨(a, b), hab.of_chain hc.chain, hab⟩
  rwa [List.length_map] at hl

end WellFormed

theorem finite_links_ofEdges (names : List String) (edges : List Edge) :
    {e : String × String | (ofEdges names edges).Links e.1 e.2}.Finite := by
  refine (List.finite_toSet (edges.map fun e => (e.source, e.target))).subset fun e he => ?_
  exact List.mem_map.2 ⟨⟨e.1, e.2⟩, (links_ofEdges.1 he).2.2, rfl⟩

end AgentSpec.Graph
