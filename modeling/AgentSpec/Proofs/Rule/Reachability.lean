import AgentSpec.Proofs.Graph.Usage
import AgentSpec.Proofs.Rule.Accounts
import AgentSpec.Proofs.Rule.Cycles
import AgentSpec.Proofs.Rule.References

/-! The nodes that have nothing to do with the entry node of their workflow, and how they are
reported: each name once, where it is declared first, in the order of these places. -/
namespace AgentSpec

namespace Workflow

/-- Some node follows from both, if not one of them from the other. -/
def Joins (w : Workflow) (a b : String) : Prop :=
  ∃ r, Relation.ReflTransGen w.Feeds a r ∧ Relation.ReflTransGen w.Feeds b r

/-- A name of nodes from which no way leads to what follows from the entry node. -/
structure Strands (w : Workflow) (name : String) : Prop where
  entry : w.Declares w.entryNode
  declared : w.Declares name
  apart : ¬ w.Joins w.entryNode name

end Workflow

/-- The node stands at `i` and none of the nodes in front of it has its name. -/
structure FirstAt (nodes : List Node) (i : Nat) (node : Node) : Prop where
  here : nodes[i]? = some node
  first : ∀ k < i, ∀ other : Node, nodes[k]? = some other → other.name ≠ node.name

namespace FirstAt

variable {nodes : List Node} {first node : Node} {i : Nat}

theorem cons_zero_iff : FirstAt (first :: nodes) 0 node ↔ first = node := by
  constructor
  · exact fun h => Option.some.inj h.here
  · rintro rfl
    exact ⟨rfl, fun k hk => absurd hk (Nat.not_lt_zero k)⟩

theorem cons_succ_iff : FirstAt (first :: nodes) (i + 1) node ↔
    FirstAt nodes i node ∧ first.name ≠ node.name := by
  constructor
  · intro h
    have hlater : FirstAt nodes i node :=
      ⟨h.here, fun k hk other ho => h.first (k + 1) (by omega) other ho⟩
    exact ⟨hlater, h.first 0 (by omega) first rfl⟩
  · intro h
    obtain ⟨⟨hi, hbefore⟩, hne⟩ := h
    refine ⟨hi, fun k hk other ho => ?_⟩
    cases k with
    | zero => exact Option.some.inj ho ▸ hne
    | succ k => exact hbefore k (by omega) other ho

/-- The first place of a name is the only one. -/
theorem unique {k : Nat} {other : Node} (h : FirstAt nodes i node) (ho : FirstAt nodes k other)
    (hn : node.name = other.name) : i = k := by
  rcases Nat.lt_trichotomy i k with hlt | heq | hgt
  · exact absurd hn (ho.first i hlt node h.here)
  · exact heq
  · exact absurd hn.symm (h.first k hgt other ho.here)

end FirstAt

theorem exists_firstAt {nodes : List Node} {name : String} (h : name ∈ nodes.map (·.name)) :
    ∃ i node, FirstAt nodes i node ∧ node.name = name := by
  induction nodes with
  | nil => cases h
  | cons first rest ih =>
    by_cases hn : first.name = name
    · exact ⟨0, first, FirstAt.cons_zero_iff.2 rfl, hn⟩
    · obtain ⟨i, node, hfirst, rfl⟩ := ih ((List.mem_cons.1 h).resolve_left (Ne.symm hn))
      exact ⟨i + 1, node, FirstAt.cons_succ_iff.2 ⟨hfirst, hn⟩, rfl⟩

/-- The findings are about nodes, and the node of `f` is declared before that of `g`. -/
def Finding.Precedes (f g : Finding) : Prop :=
  ∃ i j k l, f.place = Place.node i j ∧ g.place = Place.node k l ∧ (i < k ∨ i = k ∧ j < l)

namespace Rule

variable {agent : Agent} {w : Workflow} {seen : NameTable} {f : Finding}

theorem firstNodes_sublist (seen : NameTable) (nodes : List (Node × Nat)) :
    (firstNodes seen nodes).Sublist nodes := by
  induction nodes generalizing seen with
  | nil => exact .slnil
  | cons first rest ih =>
    unfold firstNodes
    split
    · exact (ih seen).cons _
    · exact (ih _).cons_cons _

/-- A node is kept if its name has not been seen, neither before nor in front of it. -/
theorem mem_firstNodes {nodes : List Node} {k j : Nat} {node : Node} :
    (node, j) ∈ firstNodes seen (nodes.zipIdx k) ↔
      ¬ seen.contains node.name = true ∧ ∃ i, j = k + i ∧ FirstAt nodes i node := by
  induction nodes generalizing seen k with
  | nil =>
    have hno : ∀ i, ¬ FirstAt [] i node := fun i h => by simpa using h.here
    simp [firstNodes, hno]
  | cons first rest ih =>
    -- a first node is the one in front, or a first node of the rest with another name
    have hsplit : (∃ i, j = k + i ∧ FirstAt (first :: rest) i node) ↔
        (j = k ∧ first = node) ∨
          (∃ i, j = k + 1 + i ∧ FirstAt rest i node) ∧ first.name ≠ node.name := by
      constructor
      · intro h
        obtain ⟨i, hj, hi⟩ := h
        cases i with
        | zero => exact .inl ⟨hj, FirstAt.cons_zero_iff.1 hi⟩
        | succ i =>
          obtain ⟨hrest, hne⟩ := FirstAt.cons_succ_iff.1 hi
          exact .inr ⟨⟨i, by omega, hrest⟩, hne⟩
      · intro h
        rcases h with ⟨rfl, rfl⟩ | ⟨⟨i, hj, hrest⟩, hne⟩
        · exact ⟨0, rfl, FirstAt.cons_zero_iff.2 rfl⟩
        · exact ⟨i + 1, by omega, FirstAt.cons_succ_iff.2 ⟨hrest, hne⟩⟩
    rw [hsplit, List.zipIdx_cons, firstNodes]
    by_cases hs : seen.contains first.name = true
    · rw [if_pos hs, ih]
      constructor
      · intro h
        obtain ⟨hn, hrest⟩ := h
        exact ⟨hn, .inr ⟨hrest, fun he => hn (he ▸ hs)⟩⟩
      · intro h
        obtain ⟨hn, ⟨-, rfl⟩ | ⟨hrest, -⟩⟩ := h
        · exact absurd hs hn
        · exact ⟨hn, hrest⟩
    · rw [if_neg hs, List.mem_cons, ih, NameTable.contains_insert, Prod.mk.injEq, not_or]
      constructor
      · intro h
        rcases h with ⟨rfl, rfl⟩ | ⟨⟨hn, hne⟩, hrest⟩
        · exact ⟨hs, .inl ⟨rfl, rfl⟩⟩
        · exact ⟨hn, .inr ⟨hrest, hne⟩⟩
      · intro h
        obtain ⟨hn, ⟨rfl, rfl⟩ | ⟨hrest, hne⟩⟩ := h
        · exact .inl ⟨rfl, rfl⟩
        · exact .inr ⟨⟨hn, hne⟩, hrest⟩

theorem mem_firstNodes_iff {node : Node} {j : Nat} :
    (node, j) ∈ firstNodes .empty w.nodes.zipIdx ↔ FirstAt w.nodes j node := by
  have hno : ¬ NameTable.empty.contains node.name = true := by
    simp [NameTable.empty, NameTable.contains]
  rw [mem_firstNodes]
  simp [hno]

theorem exists_number?_ofWorkflow {name : String} :
    (∃ i, (Graph.ofWorkflow w).table.number? name = some i) ↔ w.Declares name := by
  unfold Graph.ofWorkflow
  rw [Graph.table_ofEdges, NameTable.exists_number?_iff, Workflow.Declares]

/-- The names that get no mark from the entry node are the stranded ones. -/
theorem not_isMarked_iff {entry : Nat} {name : String}
    (he : (Graph.ofWorkflow w).table.number? w.entryNode = some entry) :
    (∃ number, (Graph.ofWorkflow w).table.number? name = some number ∧
      ¬ Graph.isMarked ((Graph.ofWorkflow w).usedFrom entry) number = true) ↔
        w.Strands name := by
  have hw := wellFormed_ofWorkflow w
  have hentry : w.Declares w.entryNode := exists_number?_ofWorkflow.1 ⟨entry, he⟩
  constructor
  · intro h
    obtain ⟨number, hn, hm⟩ := h
    rw [Graph.isMarked_usedFrom_number? hw he hn, links_ofWorkflow_eq] at hm
    exact ⟨hentry, exists_number?_ofWorkflow.1 ⟨number, hn⟩, hm⟩
  · intro h
    obtain ⟨number, hn⟩ := exists_number?_ofWorkflow.2 h.declared
    refine ⟨number, hn, ?_⟩
    rw [Graph.isMarked_usedFrom_number? hw he hn, links_ofWorkflow_eq]
    exact h.apart

/-- What is reported about a node that is the first one of its name. -/
def strandedNode? (w : Workflow) (entry i : Nat) (node : Node) (j : Nat) : Option Finding :=
  match (Graph.ofWorkflow w).table.number? node.name with
  | some number =>
    if Graph.isMarked ((Graph.ofWorkflow w).usedFrom entry) number then none
    else some (.warning (Place.node i j) (.unreachable w.name node.name))
  | none => none

/-- What is reported about the workflow at an index. -/
def strandedNodes (w : Workflow) (i : Nat) : List Finding :=
  match (Graph.ofWorkflow w).table.number? w.entryNode with
  | none => []
  | some entry =>
    (firstNodes .empty w.nodes.zipIdx).filterMap fun (node, j) => strandedNode? w entry i node j

theorem reachabilityFindings_eq (agent : Agent) : reachabilityFindings agent =
    agent.workflows.zipIdx.flatMap fun (w, i) => strandedNodes w i :=
  (emits_checkReachability agent).alone_eq

theorem strandedNode?_eq_some_iff {entry i j : Nat} {node : Node}
    (he : (Graph.ofWorkflow w).table.number? w.entryNode = some entry) :
    strandedNode? w entry i node j = some f ↔
      w.Strands node.name ∧ f = .warning (Place.node i j) (.unreachable w.name node.name) := by
  rw [← not_isMarked_iff he, strandedNode?]
  cases hn : (Graph.ofWorkflow w).table.number? node.name with
  | none => simp
  | some number =>
    by_cases hm : Graph.isMarked ((Graph.ofWorkflow w).usedFrom entry) number = true
    · simp [hm]
    · simp only [hm, Bool.false_eq_true, if_false, Option.some.injEq, exists_eq_left',
        not_false_eq_true, true_and]
      exact eq_comm

theorem mem_strandedNodes {i : Nat} : f ∈ strandedNodes w i ↔ ∃ j node,
    w.Strands node.name ∧ FirstAt w.nodes j node ∧
      f = .warning (Place.node i j) (.unreachable w.name node.name) := by
  unfold strandedNodes
  cases he : (Graph.ofWorkflow w).table.number? w.entryNode with
  | none =>
    have hno : ¬ w.Declares w.entryNode := fun hd => by
      obtain ⟨entry, h⟩ := exists_number?_ofWorkflow.2 hd
      rw [he] at h
      cases h
    refine iff_of_false List.not_mem_nil ?_
    intro h
    obtain ⟨j, node, hs, -⟩ := h
    exact hno hs.entry
  | some entry =>
    rw [List.mem_filterMap]
    constructor
    · intro h
      obtain ⟨⟨node, j⟩, hm, hf⟩ := h
      obtain ⟨hs, hf⟩ := (strandedNode?_eq_some_iff he).1 hf
      exact ⟨j, node, hs, mem_firstNodes_iff.1 hm, hf⟩
    · intro h
      obtain ⟨j, node, hs, hfirst, hf⟩ := h
      exact ⟨(node, j), mem_firstNodes_iff.2 hfirst, (strandedNode?_eq_some_iff he).2 ⟨hs, hf⟩⟩

/-- A warning is given for the first node of each name that is stranded. -/
theorem mem_reachabilityFindings : f ∈ reachabilityFindings agent ↔ ∃ i w j node,
    agent.workflows[i]? = some w ∧ w.Strands node.name ∧ FirstAt w.nodes j node ∧
      f = .warning (Place.node i j) (.unreachable w.name node.name) := by
  rw [reachabilityFindings_eq, List.mem_flatMap]
  constructor
  · intro h
    obtain ⟨⟨w, i⟩, hw, hf⟩ := h
    obtain ⟨j, node, hs, hfirst, he⟩ := mem_strandedNodes.1 hf
    exact ⟨i, w, j, node, List.mem_zipIdx_iff_getElem?.1 hw, hs, hfirst, he⟩
  · intro h
    obtain ⟨i, w, j, node, hw, hs, hfirst, he⟩ := h
    exact ⟨(w, i), List.mem_zipIdx_iff_getElem?.2 hw, mem_strandedNodes.2 ⟨j, node, hs, hfirst, he⟩⟩

theorem pairwise_strandedNodes (w : Workflow) (i : Nat) :
    (strandedNodes w i).Pairwise Finding.Precedes := by
  unfold strandedNodes
  split
  · exact .nil
  · rename_i entry he
    rw [List.pairwise_filterMap]
    refine ((pairwise_zipIdx w.nodes).sublist (firstNodes_sublist _ _)).imp ?_
    intro p q hlt f hf g hg
    obtain ⟨-, rfl⟩ := (strandedNode?_eq_some_iff he).1 hf
    obtain ⟨-, rfl⟩ := (strandedNode?_eq_some_iff he).1 hg
    exact ⟨i, p.2, i, q.2, rfl, rfl, .inr ⟨rfl, hlt⟩⟩

/-- The warnings stand in the order in which their nodes are declared. -/
theorem pairwise_reachabilityFindings (agent : Agent) :
    (reachabilityFindings agent).Pairwise Finding.Precedes := by
  rw [reachabilityFindings_eq, List.pairwise_flatMap]
  refine ⟨fun p _ => pairwise_strandedNodes p.1 p.2, (pairwise_zipIdx agent.workflows).imp ?_⟩
  intro p q hlt f hf g hg
  obtain ⟨j, node, -, -, rfl⟩ := mem_strandedNodes.1 hf
  obtain ⟨l, other, -, -, rfl⟩ := mem_strandedNodes.1 hg
  exact ⟨p.2, j, q.2, l, rfl, rfl, .inl hlt⟩

theorem nodePlace_inj {i j k l : Nat} : Place.node i j = Place.node k l ↔ i = k ∧ j = l := by
  simp [Place.node]

theorem nodup_reachabilityFindings (agent : Agent) : (reachabilityFindings agent).Nodup := by
  refine (pairwise_reachabilityFindings agent).imp ?_
  rintro f _ ⟨i, j, k, l, hf, hg, hlt⟩ rfl
  obtain ⟨rfl, rfl⟩ := nodePlace_inj.1 (hf.symm.trans hg)
  omega

/-- There is no warning if every node shares a follower with the entry node of its workflow, or
that entry node is none of its nodes. -/
theorem reachability_warning_iff : Lacks .warning (reachabilityFindings agent) ↔
    ∀ w ∈ agent.workflows, w.Declares w.entryNode →
      ∀ node ∈ w.nodes, w.Joins w.entryNode node.name := by
  constructor
  · intro h w hw he node hn
    by_contra hno
    obtain ⟨i, hi⟩ := List.getElem?_of_mem hw
    have hs : w.Strands node.name := ⟨he, List.mem_map_of_mem hn, hno⟩
    obtain ⟨j, first, hfirst, hname⟩ := exists_firstAt hs.declared
    rw [← hname] at hs
    exact h _ (mem_reachabilityFindings.2 ⟨i, w, j, first, hi, hs, hfirst, rfl⟩) rfl
  · intro h f hf
    obtain ⟨i, w, j, node, hi, hs, hfirst, -⟩ := mem_reachabilityFindings.1 hf
    exact absurd (h w (List.mem_of_getElem? hi) hs.entry node (List.mem_of_getElem? hfirst.here))
      hs.apart

theorem reachability_no_error : Lacks .error (reachabilityFindings agent) := by
  intro f hf
  obtain ⟨i, w, j, node, -, -, -, rfl⟩ := mem_reachabilityFindings.1 hf
  nofun

/-- The reports of a name in the workflow at an index. -/
def reportsOf (i : Nat) (defect : Defect) (findings : List Finding) : List Finding :=
  findings.filter fun f => f.place.take 2 = Place.entry "workflows" i ∧ f.defect = defect

theorem reportsOf_stranded {i j : Nat} {node : Node} (hw : agent.workflows[i]? = some w)
    (hs : w.Strands node.name) (hj : FirstAt w.nodes j node) :
    reportsOf i (.unreachable w.name node.name) (reachabilityFindings agent) =
      [.warning (Place.node i j) (.unreachable w.name node.name)] := by
  have hmem : .warning (Place.node i j) (.unreachable w.name node.name) ∈
      reachabilityFindings agent := mem_reachabilityFindings.2 ⟨i, w, j, node, hw, hs, hj, rfl⟩
  -- the filter keeps one value only, and that value stands in the list once
  have honly : ∀ f ∈ reachabilityFindings agent,
      decide (f.place.take 2 = Place.entry "workflows" i ∧
        f.defect = .unreachable w.name node.name) =
      decide (f = .warning (Place.node i j) (.unreachable w.name node.name)) := by
    intro f hf
    obtain ⟨k, v, l, other, hv, -, hl, rfl⟩ := mem_reachabilityFindings.1 hf
    rw [decide_eq_decide]
    constructor
    · intro h
      obtain ⟨hplace, hdefect⟩ := h
      obtain rfl : k = i := by simpa [Finding.warning, Place.node, Place.entry] using hplace
      obtain rfl : v = w := Option.some.inj (hv.symm.trans hw)
      have hname : other.name = node.name := by simpa [Finding.warning] using hdefect
      rw [hl.unique hj hname, hname]
    · intro h
      rw [h]
      exact ⟨rfl, rfl⟩
  unfold reportsOf
  rw [List.filter_congr honly, List.filter_eq,
    List.count_eq_one_of_mem (nodup_reachabilityFindings agent) hmem]
  rfl

/-- Each name that is stranded in a workflow is reported once, at the first node that bears it.
Nothing else is reported, and the reports stand in the order of these nodes. -/
theorem reachability_exact (agent : Agent) :
    (∀ f, f ∈ reachabilityFindings agent ↔ ∃ i w j node,
      agent.workflows[i]? = some w ∧ w.Strands node.name ∧ FirstAt w.nodes j node ∧
        f = .warning (Place.node i j) (.unreachable w.name node.name)) ∧
    (∀ i w name, agent.workflows[i]? = some w → w.Strands name →
      ∃ j node, FirstAt w.nodes j node ∧ node.name = name ∧
        reportsOf i (.unreachable w.name name) (reachabilityFindings agent) =
          [.warning (Place.node i j) (.unreachable w.name name)]) ∧
    (∀ i w, agent.workflows[i]? = some w → ¬ w.Declares w.entryNode →
      ∀ f ∈ reachabilityFindings agent, f.place.take 2 ≠ Place.entry "workflows" i) ∧
    (reachabilityFindings agent).Pairwise Finding.Precedes := by
  refine ⟨fun f => mem_reachabilityFindings, fun i w name hw hs => ?_, fun i w hw hno f hf he => ?_,
    pairwise_reachabilityFindings agent⟩
  · obtain ⟨j, node, hj, rfl⟩ := exists_firstAt hs.declared
    exact ⟨j, node, hj, rfl, reportsOf_stranded hw hs hj⟩
  · obtain ⟨k, v, l, node, hv, hs, -, rfl⟩ := mem_reachabilityFindings.1 hf
    obtain rfl : k = i := by simpa [Finding.warning, Place.node, Place.entry] using he
    obtain rfl : v = w := Option.some.inj (hv.symm.trans hw)
    exact hno hs.entry

/-- Two nodes in a circle with the entry, and two in a circle of their own: one of these is
declared twice and needs a name that no node has. -/
def islands : Workflow where
  name := "islands"
  description := ""
  entryNode := "a"
  nodes := [⟨"x", "", none, .task, none, ["y"], [], []⟩,
    ⟨"a", "", none, .task, none, ["b"], [], []⟩,
    ⟨"y", "", none, .task, none, ["x"], [], []⟩,
    ⟨"b", "", none, .task, none, ["a", "a"], [], []⟩,
    ⟨"x", "", none, .task, none, ["nothing"], [], []⟩]

/-- A workflow whose entry is none of its nodes, and the one with the islands. -/
def islandAgent : Agent where
  name := "islands"
  version := "1.0.0"
  description := ""
  kind := .composite
  goal := none
  criteria := none
  inputSchema := none
  outputSchema := none
  workflows := [⟨"lost", "", "gone", [⟨"x", "", none, .task, none, [], [], []⟩]⟩, islands]
  modules := []
  prompts := []
  tools := []

theorem reachability_exact_islands :
    islandAgent.workflows[1]? = some islands ∧ islands.Strands "x" ∧
      reportsOf 1 (.unreachable "islands" "x") (reachabilityFindings islandAgent) =
        [.warning (Place.node 1 0) (.unreachable "islands" "x")] ∧
      ∀ f ∈ reachabilityFindings islandAgent, f.place.take 2 ≠ Place.entry "workflows" 0 := by
  obtain ⟨hmem, honce, hlost, -⟩ := reachability_exact islandAgent
  have hx : .warning (Place.node 1 0) (.unreachable "islands" "x") ∈
      reachabilityFindings islandAgent := by decide +kernel
  have hs : islands.Strands "x" := by
    obtain ⟨i, w, j, node, hw, hs, hj, hf⟩ := (hmem _).1 hx
    simp only [Finding.warning, Finding.mk.injEq, nodePlace_inj, Defect.unreachable.injEq,
      true_and] at hf
    obtain ⟨⟨rfl, rfl⟩, -, hname⟩ := hf
    cases hw
    rwa [← hname] at hs
  obtain ⟨j, node, hj, hname, hone⟩ := honce 1 islands "x" rfl hs
  have hzero : FirstAt islands.nodes 0 ⟨"x", "", none, .task, none, ["y"], [], []⟩ :=
    FirstAt.cons_zero_iff.2 rfl
  rw [hj.unique hzero hname] at hone
  exact ⟨rfl, hs, hone, hlost 0 _ rfl (by unfold Workflow.Declares; decide)⟩

end Rule

end AgentSpec
