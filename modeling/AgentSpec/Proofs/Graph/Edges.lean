import AgentSpec.Graph.Basic
import AgentSpec.Proofs.Graph.Names
import Mathlib.Data.List.Induction
import Mathlib.Data.List.Nodup

/-! Graphs built from lists of edges: which edges they have, in which order, and that both ends of
an edge agree. -/
namespace AgentSpec.Graph

/-- Every edge connects two nodes, stands at both of its ends, and stands there once. -/
structure WellFormed (g : Graph) : Prop where
  consistent : g.table.Consistent
  table_size : g.table.size = g.size
  previous_size : g.predecessors.size = g.size
  next_lt : ∀ {a b}, b ∈ g.next a → b < g.size
  next_nodup : ∀ a, (g.next a).toList.Nodup
  previous_nodup : ∀ a, (g.previous a).toList.Nodup
  mem_previous : ∀ {a b}, a ∈ g.previous b ↔ b ∈ g.next a

private theorem getD_modify {α : Type} {rows : Array (Array α)} {i j : Nat}
    {f : Array α → Array α} (hi : i < rows.size) :
    (rows.modify i f).getD j #[] = if i = j then f (rows.getD j #[]) else rows.getD j #[] := by
  simp only [Array.getD_eq_getD_getElem?, Array.getElem?_modify]
  split
  · subst j
    simp [hi]
  · rfl

theorem next_eq_empty {g : Graph} {a : Nat} (h : ¬ a < g.size) : g.next a = #[] := by
  rw [next, Array.getD_eq_getD_getElem?, Array.getElem?_eq_none (Nat.le_of_not_lt h),
    Option.getD_none]

theorem lt_of_mem_next {g : Graph} {a b : Nat} (h : b ∈ g.next a) : a < g.size := by
  by_contra ha
  rw [next_eq_empty ha] at h
  simp at h

theorem link_of_mem {g : Graph} {a b : Nat} (h : b ∈ g.next a) : g.link a b = g := by
  unfold link
  rw [if_pos (Array.contains_iff_mem.2 h)]

theorem link_of_not_mem {g : Graph} {a b : Nat} (h : b ∉ g.next a) :
    g.link a b = { g with
      successors := g.successors.modify a (·.push b)
      predecessors := g.predecessors.modify b (·.push a) } := by
  unfold link
  rw [if_neg fun hc => h (Array.contains_iff_mem.1 hc)]

theorem next_link_of_not_mem {g : Graph} {a b : Nat} (ha : a < g.size) (h : b ∉ g.next a)
    (c : Nat) : (g.link a b).next c = if a = c then (g.next c).push b else g.next c := by
  rw [link_of_not_mem h]
  exact getD_modify ha

theorem previous_link_of_not_mem {g : Graph} {a b : Nat} (hb : b < g.predecessors.size)
    (h : b ∉ g.next a) (c : Nat) :
    (g.link a b).previous c = if b = c then (g.previous c).push a else g.previous c := by
  rw [link_of_not_mem h]
  exact getD_modify hb

theorem mem_next_link {g : Graph} {a b : Nat} (ha : a < g.size) {c d : Nat} :
    d ∈ (g.link a b).next c ↔ d ∈ g.next c ∨ (a = c ∧ b = d) := by
  by_cases h : b ∈ g.next a
  · rw [link_of_mem h]
    exact ⟨.inl, fun hd => hd.elim id fun he => he.1 ▸ he.2 ▸ h⟩
  · rw [next_link_of_not_mem ha h]
    by_cases hc : a = c
    · simp [hc, eq_comm]
    · simp [hc]

theorem size_link (g : Graph) (a b : Nat) : (g.link a b).size = g.size := by
  by_cases h : b ∈ g.next a
  · rw [link_of_mem h]
  · simp [link_of_not_mem h, size]

theorem nodup_push {l : Array Nat} {a : Nat} (h : l.toList.Nodup) (ha : a ∉ l) :
    (l.push a).toList.Nodup := by
  rw [Array.toList_push, ← List.concat_eq_append]
  exact h.concat (by simpa using ha)

theorem WellFormed.link {g : Graph} (h : g.WellFormed) {a b : Nat} (ha : a < g.size)
    (hb : b < g.size) : (g.link a b).WellFormed := by
  by_cases hm : b ∈ g.next a
  · rwa [link_of_mem hm]
  have hp : a ∉ g.previous b := fun hp => hm (h.mem_previous.1 hp)
  have hbp : b < g.predecessors.size := h.previous_size ▸ hb
  refine ⟨?_, ?_, ?_, ?_, ?_, ?_, ?_⟩
  · rw [link_of_not_mem hm]
    exact h.consistent
  · rw [size_link, link_of_not_mem hm]
    exact h.table_size
  · rw [size_link, link_of_not_mem hm]
    simpa using h.previous_size
  · intro c d hd
    rw [size_link]
    rcases (mem_next_link ha).1 hd with hd | ⟨-, rfl⟩
    · exact h.next_lt hd
    · exact hb
  · intro c
    rw [next_link_of_not_mem ha hm]
    split
    · rename_i hc
      exact nodup_push (h.next_nodup c) (hc ▸ hm)
    · exact h.next_nodup c
  · intro c
    rw [previous_link_of_not_mem hbp hm]
    split
    · rename_i hc
      exact nodup_push (h.previous_nodup c) (hc ▸ hp)
    · exact h.previous_nodup c
  · intro c d
    rw [mem_next_link ha, ← h.mem_previous, previous_link_of_not_mem hbp hm]
    by_cases hd : b = d
    · simp [hd, eq_comm]
    · simp [hd]

theorem getD_replicate_empty (n i : Nat) :
    (Array.replicate n (#[] : Array Nat)).getD i #[] = #[] := by
  rw [Array.getD_eq_getD_getElem?, Array.getElem?_replicate]
  split <;> rfl

theorem next_ofNames (names : List String) (a : Nat) : (ofNames names).next a = #[] :=
  getD_replicate_empty _ _

theorem previous_ofNames (names : List String) (a : Nat) : (ofNames names).previous a = #[] :=
  getD_replicate_empty _ _

theorem wellFormed_ofNames (names : List String) : (ofNames names).WellFormed := by
  refine ⟨NameTable.consistent_ofList names, ?_, ?_, ?_, ?_, ?_, ?_⟩
  · simp [ofNames, size]
  · simp [ofNames, size]
  · intro a b h
    simp [next_ofNames] at h
  · intro a
    simp [next_ofNames]
  · intro a
    simp [previous_ofNames]
  · intro a b
    simp [next_ofNames, previous_ofNames]

theorem table_link (g : Graph) (a b : Nat) : (g.link a b).table = g.table := by
  by_cases h : b ∈ g.next a
  · rw [link_of_mem h]
  · rw [link_of_not_mem h]

theorem table_addEdge (g : Graph) (edge : Edge) : (g.addEdge edge).table = g.table := by
  unfold addEdge
  split
  · exact table_link g _ _
  · rfl

theorem table_foldl_addEdge (edges : List Edge) (g : Graph) :
    (edges.foldl addEdge g).table = g.table := by
  induction edges generalizing g with
  | nil => rfl
  | cons edge rest ih => rw [List.foldl_cons, ih, table_addEdge]

@[simp] theorem table_ofEdges (names : List String) (edges : List Edge) :
    (ofEdges names edges).table = NameTable.ofList names := table_foldl_addEdge edges _

theorem WellFormed.addEdge {g : Graph} (h : g.WellFormed) (edge : Edge) :
    (g.addEdge edge).WellFormed := by
  unfold Graph.addEdge
  split
  · rename_i source target hs ht
    have hs' := h.consistent.lt_size hs
    have ht' := h.consistent.lt_size ht
    rw [h.table_size] at hs' ht'
    exact h.link hs' ht'
  · exact h

theorem mem_next_addEdge {g : Graph} (h : g.WellFormed) (edge : Edge) {a b : Nat} :
    b ∈ (g.addEdge edge).next a ↔ b ∈ g.next a ∨
      (g.table.number? edge.source = some a ∧ g.table.number? edge.target = some b) := by
  unfold addEdge
  split
  · rename_i source target hs ht
    have hs' := h.consistent.lt_size hs
    rw [h.table_size] at hs'
    rw [mem_next_link hs', hs, ht, Option.some.injEq, Option.some.injEq]
  · rename_i hno
    exact ⟨.inl, fun hm => hm.elim id fun he => (hno a b he.1 he.2).elim⟩

theorem WellFormed.foldl_addEdge (edges : List Edge) {g : Graph} (h : g.WellFormed) :
    (edges.foldl Graph.addEdge g).WellFormed := by
  induction edges generalizing g with
  | nil => exact h
  | cons edge rest ih => exact ih (h.addEdge edge)

/-- Every graph that is made from names by adding edges is well formed. -/
theorem wellFormed_ofEdges (names : List String) (edges : List Edge) :
    (ofEdges names edges).WellFormed := (wellFormed_ofNames names).foldl_addEdge edges

theorem mem_next_foldl_addEdge (edges : List Edge) {g : Graph} (h : g.WellFormed) {a b : Nat} :
    b ∈ (edges.foldl addEdge g).next a ↔ b ∈ g.next a ∨
      ∃ e ∈ edges, g.table.number? e.source = some a ∧ g.table.number? e.target = some b := by
  induction edges generalizing g with
  | nil => simp
  | cons edge rest ih =>
    rw [List.foldl_cons, ih (h.addEdge edge), mem_next_addEdge h, table_addEdge, or_assoc]
    simp

theorem mem_next_ofEdges {names : List String} {edges : List Edge} {a b : Nat} :
    b ∈ (ofEdges names edges).next a ↔
      ∃ e ∈ edges, (NameTable.ofList names).number? e.source = some a ∧
        (NameTable.ofList names).number? e.target = some b := by
  unfold ofEdges
  rw [mem_next_foldl_addEdge edges (wellFormed_ofNames names), next_ofNames]
  simp [ofNames]

/-- The numbers of the nodes that the edges of a node lead to, edge by edge. -/
def targets (names : List String) (edges : List Edge) (node : Nat) : List Nat :=
  edges.filterMap fun edge =>
    if (NameTable.ofList names).number? edge.source = some node then
      (NameTable.ofList names).number? edge.target
    else none

theorem eraseDups_concat (l : List Nat) (b : Nat) :
    (l ++ [b]).eraseDups = if b ∈ l then l.eraseDups else l.eraseDups ++ [b] := by
  rw [List.eraseDups_append]
  by_cases hb : b ∈ l
  · simp [List.removeAll, hb]
  · simp [List.removeAll, hb, List.eraseDups_cons]

theorem toList_next_link {g : Graph} {a b c : Nat} {l : List Nat} (ha : a < g.size)
    (hl : (g.next c).toList = l.eraseDups) :
    ((g.link a b).next c).toList = if a = c then (l ++ [b]).eraseDups else l.eraseDups := by
  have hmem : b ∈ g.next c ↔ b ∈ l := by rw [← Array.mem_toList_iff, hl, List.mem_eraseDups]
  by_cases hb : b ∈ g.next a
  · rw [link_of_mem hb, hl]
    split
    · rename_i hc
      rw [eraseDups_concat, if_pos (hmem.1 (hc ▸ hb))]
    · rfl
  · rw [next_link_of_not_mem ha hb]
    split
    · rename_i hc
      rw [Array.toList_push, hl, eraseDups_concat, if_neg fun h => hb (hc ▸ hmem.2 h)]
    · exact hl

/-- The successors of a node are in the order in which the first edges to them came. -/
theorem toList_next_ofEdges (names : List String) (edges : List Edge) (node : Nat) :
    ((ofEdges names edges).next node).toList = (targets names edges node).eraseDups := by
  induction edges using List.reverseRecOn with
  | nil => simp [ofEdges, targets, next_ofNames]
  | append_singleton edges edge ih =>
    have hg := wellFormed_ofEdges names edges
    have hof : ofEdges names (edges ++ [edge]) = (ofEdges names edges).addEdge edge :=
      List.foldl_concat ..
    rw [targets, List.filterMap_append, ← targets, hof, addEdge, table_ofEdges]
    split
    · rename_i source target hs ht
      have hlt := hg.consistent.lt_size (by simpa using hs)
      rw [hg.table_size] at hlt
      rw [toList_next_link hlt ih]
      by_cases hn : source = node
      · simp [hs, ht, hn]
      · simp [hs, hn]
    · rename_i hno
      rw [ih]
      cases ht : (NameTable.ofList names).number? edge.target with
      | none => simp [ht]
      | some target =>
        have hs : (NameTable.ofList names).number? edge.source ≠ some node :=
          fun hs => hno node target hs ht
        simp [hs]

/-- An edge between two names that are nodes. -/
def Links (g : Graph) (a b : String) : Prop :=
  ∃ i j, g.table.number? a = some i ∧ g.table.number? b = some j ∧ j ∈ g.next i

/-- Of the edges that a graph is made from it has those that connect two of its names. -/
theorem links_ofEdges {names : List String} {edges : List Edge} {a b : String} :
    (ofEdges names edges).Links a b ↔ a ∈ names ∧ b ∈ names ∧ ⟨a, b⟩ ∈ edges := by
  have hc := NameTable.consistent_ofList names
  rw [← NameTable.exists_number?_iff names a, ← NameTable.exists_number?_iff names b]
  simp only [Links, table_ofEdges, mem_next_ofEdges]
  constructor
  · intro h
    obtain ⟨i, j, ha, hb, e, he, hs, ht⟩ := h
    refine ⟨⟨i, ha⟩, ⟨j, hb⟩, ?_⟩
    rwa [hc.number?_inj ha hs, hc.number?_inj hb ht]
  · intro h
    obtain ⟨⟨i, ha⟩, ⟨j, hb⟩, he⟩ := h
    exact ⟨i, j, ha, hb, ⟨a, b⟩, he, ha, hb⟩

/-- Edges between numbers are edges between the names of those numbers. -/
theorem WellFormed.links_name {g : Graph} (h : g.WellFormed) {i j : Nat} (hj : j ∈ g.next i) :
    g.Links (g.table.name i) (g.table.name j) := by
  have hi := lt_of_mem_next hj
  have hj' := h.next_lt hj
  rw [← h.table_size] at hi hj'
  exact ⟨i, j, h.consistent.number?_name hi, h.consistent.number?_name hj', hj⟩

end AgentSpec.Graph
