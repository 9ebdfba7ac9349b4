import AgentSpec.Proofs.Graph.NamedCycles

/-! How many nodes and edges a graph has, by the names and the edges that it is made from. -/
namespace AgentSpec.Graph

/-- The distinct ones of the edges that connect two of the names. -/
def resolved (names : List String) (edges : List Edge) : List Edge :=
  (edges.filter fun e => e.source ∈ names ∧ e.target ∈ names).dedup

/-- The edge between the names of two nodes. -/
def named (g : Graph) (e : Nat × Nat) : Edge := ⟨g.table.name e.1, g.table.name e.2⟩

variable {names : List String} {edges : List Edge}

theorem mem_resolved_iff {e : Edge} :
    e ∈ resolved names edges ↔ (ofEdges names edges).Links e.source e.target := by
  rw [links_ofEdges, resolved, List.mem_dedup, List.mem_filter, decide_eq_true_eq, and_comm,
    and_assoc]

/-- A list of all nodes, each once, has each of the distinct names once. -/
theorem perm_names {nodes : List Nat} (hd : nodes.Nodup)
    (hm : ∀ n, n ∈ nodes ↔ n < (ofEdges names edges).size) :
    (nodes.map (ofEdges names edges).table.name).Perm names.dedup := by
  have hg := wellFormed_ofEdges names edges
  have hnodup : (nodes.map (ofEdges names edges).table.name).Nodup :=
    hd.map_on fun a ha b hb => hg.name_inj ((hm a).1 ha) ((hm b).1 hb)
  refine (List.perm_ext_iff_of_nodup hnodup (List.nodup_dedup names)).2 fun name => ?_
  rw [List.mem_dedup, ← NameTable.exists_number?_iff names, List.mem_map,
    ← table_ofEdges names edges]
  constructor
  · intro h
    obtain ⟨n, hn, rfl⟩ := h
    exact ⟨n, hg.consistent.number?_name (hg.table_size ▸ (hm n).1 hn)⟩
  · intro h
    obtain ⟨n, hn⟩ := h
    have hlt : n < (ofEdges names edges).size := hg.table_size ▸ hg.consistent.lt_size hn
    exact ⟨n, (hm n).2 hlt, hg.consistent.name_number? hn⟩

/-- A list of all edges between nodes, each once, has each of the distinct edges between names
once. -/
theorem perm_resolved {pairs : List (Nat × Nat)} (hd : pairs.Nodup)
    (hm : ∀ a b, (a, b) ∈ pairs ↔ b ∈ (ofEdges names edges).next a) :
    (pairs.map (ofEdges names edges).named).Perm (resolved names edges) := by
  have hg := wellFormed_ofEdges names edges
  have hnodup : (pairs.map (ofEdges names edges).named).Nodup := by
    refine hd.map_on fun e he e' he' h => ?_
    have hab := (hm e.1 e.2).1 he
    have hab' := (hm e'.1 e'.2).1 he'
    obtain ⟨hsource, htarget⟩ := Edge.mk.inj h
    exact Prod.ext (hg.name_inj (lt_of_mem_next hab) (lt_of_mem_next hab') hsource)
      (hg.name_inj (hg.next_lt hab) (hg.next_lt hab') htarget)
  refine (List.perm_ext_iff_of_nodup hnodup (List.nodup_dedup _)).2 fun e => ?_
  rw [← resolved, mem_resolved_iff, List.mem_map]
  constructor
  · intro h
    obtain ⟨⟨a, b⟩, hab, rfl⟩ := h
    exact hg.links_name ((hm a b).1 hab)
  · intro h
    obtain ⟨a, b, ha, hb, hab⟩ := h
    refine ⟨(a, b), (hm a b).2 hab, ?_⟩
    rw [named, hg.consistent.name_number? ha, hg.consistent.name_number? hb]

/-- The edges of a graph in the order of their sources. -/
def pairs (g : Graph) : List (Nat × Nat) :=
  (List.range g.size).flatMap fun a => (g.next a).toList.map (a, ·)

theorem mem_pairs {g : Graph} {a b : Nat} : (a, b) ∈ g.pairs ↔ b ∈ g.next a := by
  simp only [pairs, List.mem_flatMap, List.mem_range, List.mem_map, Prod.mk.injEq,
    Array.mem_toList_iff]
  constructor
  · intro h
    obtain ⟨c, -, d, hd, rfl, rfl⟩ := h
    exact hd
  · intro h
    exact ⟨a, lt_of_mem_next h, b, h, rfl, rfl⟩

theorem WellFormed.nodup_pairs {g : Graph} (hg : g.WellFormed) : g.pairs.Nodup := by
  refine List.nodup_flatMap.2 ⟨fun a _ => (hg.next_nodup a).map (Prod.mk_right_injective a), ?_⟩
  refine List.nodup_range.imp fun {a b} hne e ha hb => ?_
  obtain ⟨_, -, rfl⟩ := List.mem_map.1 ha
  obtain ⟨_, -, he⟩ := List.mem_map.1 hb
  exact hne (Prod.ext_iff.1 he).1.symm

theorem length_pairs (g : Graph) : g.pairs.length = g.edgeCount := by
  rw [← sum_size_next, pairs, List.length_flatMap, ← List.toFinset_range,
    List.sum_toFinset _ List.nodup_range]
  simp

theorem size_ofEdges (names : List String) (edges : List Edge) :
    (ofEdges names edges).size = names.dedup.length := by
  rw [← (perm_names List.nodup_range fun _ => List.mem_range).length_eq, List.length_map,
    List.length_range]

theorem edgeCount_ofEdges (names : List String) (edges : List Edge) :
    (ofEdges names edges).edgeCount = (resolved names edges).length := by
  have hg := wellFormed_ofEdges names edges
  rw [← length_pairs, ← (perm_resolved hg.nodup_pairs fun _ _ => mem_pairs).length_eq,
    List.length_map]

end AgentSpec.Graph
