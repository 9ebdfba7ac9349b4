import AgentSpec.Proofs.Place
import AgentSpec.Proofs.Rule.Accounts
import AgentSpec.Proofs.Rule.Findings

/-! The sites of an agent where something is referred to by name. Every site without a target is
reported, once and in the order of the sites, and nothing else is. -/
namespace AgentSpec

/-- A site of references: the entry of a workflow, a dependency of a node, or the reference of a
node to what it uses or runs. -/
inductive Site where
  | entry (i : Nat)
  | dependency (i j k : Nat)
  | reference (i j : Nat)
deriving DecidableEq

namespace Site

def place : Site → Place
  | entry i => (Place.entry "workflows" i).field "entry_node"
  | dependency i j k => ((Place.node i j).field "depends_on").item k
  | reference i j => (Place.node i j).field "reference"

def path (s : Site) : String := s.place.render

/-- Sites are ordered by workflow, with the entry in front of the nodes, and by node, with the
dependencies in front of the reference. -/
def rank : Site → List Nat
  | entry i => [i, 0]
  | dependency i j k => [i, 1, j, 0, k]
  | reference i j => [i, 1, j, 1]

theorem place_inj {s t : Site} : s.place = t.place ↔ s = t := by
  cases s <;> cases t <;> simp [place, Place.entry, Place.node, Place.field, Place.item]

theorem rooted_place (s : Site) : s.place.Rooted where
  plain := by
    cases s <;>
      simp [place, Place.entry, Place.node, Place.field, Place.item, Place.Plain, Step.Plain]
  field := by cases s <;> exact ⟨_, _, rfl⟩

theorem path_inj {s t : Site} : s.path = t.path ↔ s = t := by
  constructor
  · intro h
    exact place_inj.1 (s.rooted_place.eq_of_render_eq t.rooted_place h)
  · rintro rfl
    rfl

end Site

/-- A reference to something by name. -/
structure Reference where
  /-- The workflow or the node that refers to something. -/
  origin : String
  target : String
  /-- The names of all that may be meant. -/
  scope : List String

namespace Agent

/-- The names of what nodes of a kind may refer to. -/
def namesFor (agent : Agent) : NodeKind → List String
  | .task => agent.modules.map (·.name) ++ agent.tools.map (·.name)
  | .module => agent.modules.map (·.name)
  | .tool => agent.tools.map (·.name)
  | .subworkflow => agent.workflows.map (·.name)

/-- What stands at a site. -/
def reference? (agent : Agent) : Site → Option Reference
  | .entry i => do
    let w ← agent.workflows[i]?
    pure ⟨w.name, w.entryNode, w.nodes.map (·.name)⟩
  | .dependency i j k => do
    let w ← agent.workflows[i]?
    let node ← w.nodes[j]?
    let name ← node.dependsOn[k]?
    pure ⟨node.name, name, w.nodes.map (·.name)⟩
  | .reference i j => do
    let w ← agent.workflows[i]?
    let node ← w.nodes[j]?
    let target ← node.reference
    pure ⟨node.name, target, agent.namesFor node.kind⟩

/-- The report on a site, if what it refers to is not there. -/
def report? (agent : Agent) (s : Site) : Option Finding := do
  let r ← agent.reference? s
  if r.target ∈ r.scope then none else some (.error s.place (.unresolved r.origin r.target))

variable {agent : Agent} {f : Finding} {r : Reference} {i j k : Nat}

theorem mem_namesFor {kind : NodeKind} {name : String} :
    name ∈ agent.namesFor kind ↔ agent.Offers kind name := by
  cases kind <;> simp [namesFor, Offers]

theorem reference?_entry : agent.reference? (.entry i) = some r ↔
    ∃ w, agent.workflows[i]? = some w ∧ r = ⟨w.name, w.entryNode, w.nodes.map (·.name)⟩ := by
  simp [reference?, Option.bind_eq_some_iff, eq_comm (a := r)]

theorem reference?_dependency : agent.reference? (.dependency i j k) = some r ↔
    ∃ w, agent.workflows[i]? = some w ∧ ∃ node, w.nodes[j]? = some node ∧
      ∃ name, node.dependsOn[k]? = some name ∧
        r = ⟨node.name, name, w.nodes.map (·.name)⟩ := by
  simp [reference?, Option.bind_eq_some_iff, eq_comm (a := r)]

theorem reference?_reference : agent.reference? (.reference i j) = some r ↔
    ∃ w, agent.workflows[i]? = some w ∧ ∃ node, w.nodes[j]? = some node ∧
      ∃ target, node.reference = some target ∧
        r = ⟨node.name, target, agent.namesFor node.kind⟩ := by
  simp [reference?, Option.bind_eq_some_iff, eq_comm (a := r)]

theorem report?_eq_some_iff {s : Site} : agent.report? s = some f ↔
    ∃ r, agent.reference? s = some r ∧ r.target ∉ r.scope ∧
      f = .error s.place (.unresolved r.origin r.target) := by
  simp [report?, Option.bind_eq_some_iff, eq_comm (a := f)]

end Agent

namespace Rule

variable {agent : Agent} {f : Finding}

theorem mem_referenceFindings_iff_report? :
    f ∈ referenceFindings agent ↔ ∃ s, agent.report? s = some f := by
  simp only [@mem_referenceFindings [], Agent.report?_eq_some_iff]
  constructor
  · intro h
    cases h with
    | lostEntry h hl => exact ⟨.entry _, _, Agent.reference?_entry.2 ⟨_, h, rfl⟩, hl, rfl⟩
    | lostDependency h hn hd hl =>
      exact ⟨.dependency _ _ _, _, Agent.reference?_dependency.2 ⟨_, h, _, hn, _, hd, rfl⟩, hl, rfl⟩
    | lostReference h hn ht hl =>
      exact ⟨.reference _ _, _, Agent.reference?_reference.2 ⟨_, h, _, hn, _, ht, rfl⟩,
        fun hm => hl (Agent.mem_namesFor.1 hm), rfl⟩
  · intro h
    obtain ⟨s, r, hr, hno, rfl⟩ := h
    cases s with
    | entry i =>
      obtain ⟨w, hw, rfl⟩ := Agent.reference?_entry.1 hr
      exact .lostEntry hw hno
    | dependency i j k =>
      obtain ⟨w, hw, node, hn, name, hd, rfl⟩ := Agent.reference?_dependency.1 hr
      exact .lostDependency hw hn hd hno
    | reference i j =>
      obtain ⟨w, hw, node, hn, target, ht, rfl⟩ := Agent.reference?_reference.1 hr
      exact .lostReference hw hn ht fun ho => hno (Agent.mem_namesFor.2 ho)

end Rule

/-- The finding is about a site whose rank begins with `front`. -/
def Finding.Under (f : Finding) (front : List Nat) : Prop :=
  ∃ s : Site, f.place = s.place ∧ front <+: s.rank

/-- The findings are about sites, of which that of `f` comes first. -/
def Finding.SiteBefore (f g : Finding) : Prop :=
  ∃ s t : Site, f.place = s.place ∧ g.place = t.place ∧ s.rank < t.rank

namespace Finding.Under

variable {f g : Finding}

theorem of_append (front rest : List Nat) (h : f.Under (front ++ rest)) : f.Under front := by
  obtain ⟨s, hs, hr⟩ := h
  exact ⟨s, hs, (List.prefix_append front rest).trans hr⟩

/-- Findings are ordered where the ranks of their sites begin to differ. -/
theorem before (front : List Nat) {a b : Nat} (hf : f.Under (front ++ [a]))
    (hg : g.Under (front ++ [b])) (h : a < b) : f.SiteBefore g := by
  obtain ⟨s, hs, rest, hr⟩ := hf
  obtain ⟨t, ht, rest', hr'⟩ := hg
  refine ⟨s, t, hs, ht, ?_⟩
  rw [← hr, ← hr', List.append_assoc, List.append_assoc]
  exact List.append_left_lt (List.cons_lt_cons_iff.2 (.inl h))

end Finding.Under

namespace Rule

variable {agent : Agent} {f g : Finding} {targets : Targets} {names : NameTable} {node : Node}
  {w : Workflow} {i j : Nat}

theorem pairwise_filterMap_unless {α : Type} {l : List α} {p : α → Bool} {report : α → Finding}
    {R : Finding → Finding → Prop} (h : l.Pairwise fun a b => R (report a) (report b)) :
    (l.filterMap fun a => if p a then none else some (report a)).Pairwise R := by
  rw [List.pairwise_filterMap]
  refine h.imp fun {a b} hab f hf g hg => ?_
  rw [Option.ite_none_left_eq_some, Option.some.injEq] at hf hg
  rwa [← hf.2, ← hg.2]

theorem checkNodeReference_eq (targets : Targets) (place : Place) (node : Node) :
    (checkNodeReference targets place node).alone = [] ∨ ∃ target,
      (checkNodeReference targets place node).alone =
        [.error (place.field "reference") (.unresolved node.name target)] := by
  rw [(emits_checkNodeReference targets place node).alone_eq]
  cases node.reference with
  | none => exact .inl rfl
  | some target =>
    dsimp only
    split
    · exact .inl rfl
    · exact .inr ⟨target, rfl⟩

theorem under_of_mem_checkNodeReference
    (h : f ∈ (checkNodeReference targets (Place.node i j) node).alone) :
    f.Under [i, 1, j, 1] := by
  rcases checkNodeReference_eq targets (Place.node i j) node with he | ⟨target, he⟩
  · simp [he] at h
  · rw [he, List.mem_singleton] at h
    exact ⟨.reference i j, h ▸ rfl, List.prefix_refl _⟩

theorem under_dependency (i j k : Nat) (defect : Defect) :
    (Finding.error (((Place.node i j).field "depends_on").item k) defect).Under [i, 1, j, 0, k] :=
  ⟨.dependency i j k, rfl, List.prefix_refl _⟩

/-- A node is reported at its own sites. -/
theorem under_of_mem_checkNodeReferences
    (h : f ∈ (checkNodeReferences targets names (Place.node i j) node).alone) :
    f.Under [i, 1, j] := by
  rw [(emits_checkNodeReferences targets names (Place.node i j) node).alone_eq,
    List.mem_append] at h
  rcases h with h | h
  · obtain ⟨⟨name, k⟩, -, -, rfl⟩ := mem_filterMap_unless.1 h
    exact (under_dependency i j k _).of_append [i, 1, j] [0, k]
  · exact (under_of_mem_checkNodeReference h).of_append [i, 1, j] [1]

theorem pairwise_checkNodeReferences :
    (checkNodeReferences targets names (Place.node i j) node).alone.Pairwise
      Finding.SiteBefore := by
  rw [(emits_checkNodeReferences targets names (Place.node i j) node).alone_eq]
  refine List.pairwise_append.2 ⟨?_, ?_, fun f hf g hg => ?_⟩
  · refine pairwise_filterMap_unless ((pairwise_zipIdx node.dependsOn).imp fun {p q} hlt => ?_)
    exact (under_dependency i j p.2 _).before [i, 1, j, 0] (under_dependency i j q.2 _) hlt
  · rcases checkNodeReference_eq targets (Place.node i j) node with he | ⟨target, he⟩ <;> simp [he]
  · obtain ⟨⟨name, k⟩, -, -, rfl⟩ := mem_filterMap_unless.1 hf
    have hdependency := (under_dependency i j k (.unresolved node.name name)).of_append
      [i, 1, j, 0] [k]
    exact hdependency.before [i, 1, j] (under_of_mem_checkNodeReference hg) Nat.zero_lt_one

/-- What is reported about the references in the workflow at an index. -/
def referencesIn (targets : Targets) (i : Nat) (w : Workflow) : List Finding :=
  let names := NameTable.ofList (w.nodes.map (·.name))
  (if names.contains w.entryNode then []
  else [.error ((Place.entry "workflows" i).field "entry_node")
    (.unresolved w.name w.entryNode)]) ++
    w.nodes.zipIdx.flatMap fun (node, j) =>
      (checkNodeReferences targets names (Place.node i j) node).alone

theorem referenceFindings_eq (agent : Agent) : referenceFindings agent =
    agent.workflows.zipIdx.flatMap fun (w, i) => referencesIn (Targets.ofAgent agent) i w :=
  (emits_checkReferences agent).alone_eq

theorem under_entry (i : Nat) (defect : Defect) :
    (Finding.error ((Place.entry "workflows" i).field "entry_node") defect).Under [i, 0] :=
  ⟨.entry i, rfl, List.prefix_refl _⟩

theorem under_of_mem_referencesIn (h : f ∈ referencesIn targets i w) : f.Under [i] := by
  rcases List.mem_append.1 h with h | h
  · rw [List.mem_ite_nil_left, List.mem_singleton] at h
    rw [h.2]
    exact (under_entry i _).of_append [i] [0]
  · obtain ⟨⟨node, j⟩, -, hf⟩ := List.mem_flatMap.1 h
    exact (under_of_mem_checkNodeReferences hf).of_append [i] [1, j]

theorem pairwise_referencesIn : (referencesIn targets i w).Pairwise Finding.SiteBefore := by
  refine List.pairwise_append.2 ⟨?_, ?_, fun f hf g hg => ?_⟩
  · split
    · exact .nil
    · exact List.pairwise_singleton _ _
  · refine List.pairwise_flatMap.2 ⟨fun p _ => pairwise_checkNodeReferences, ?_⟩
    refine (pairwise_zipIdx w.nodes).imp fun {p q} hlt f hf g hg => ?_
    have hlater := under_of_mem_checkNodeReferences hg
    exact (under_of_mem_checkNodeReferences hf).before [i, 1] hlater hlt
  · rw [List.mem_ite_nil_left, List.mem_singleton] at hf
    obtain ⟨⟨node, j⟩, -, hg⟩ := List.mem_flatMap.1 hg
    have hnode := (under_of_mem_checkNodeReferences hg).of_append [i, 1] [j]
    rw [hf.2]
    exact (under_entry i _).before [i] hnode Nat.zero_lt_one

/-- The findings stand in the order of their sites. -/
theorem pairwise_referenceFindings (agent : Agent) :
    (referenceFindings agent).Pairwise Finding.SiteBefore := by
  rw [referenceFindings_eq]
  refine List.pairwise_flatMap.2 ⟨fun p _ => pairwise_referencesIn, ?_⟩
  refine (pairwise_zipIdx agent.workflows).imp fun {p q} hlt f hf g hg => ?_
  exact (under_of_mem_referencesIn hf).before [] (under_of_mem_referencesIn hg) hlt

theorem nodup_referenceFindings (agent : Agent) : (referenceFindings agent).Nodup := by
  refine (pairwise_referenceFindings agent).imp ?_
  rintro f _ ⟨s, t, hs, ht, hlt⟩ rfl
  rw [Site.place_inj.1 (hs.symm.trans ht)] at hlt
  exact List.lt_irrefl _ hlt

/-- A filter that lets one value through keeps it once, if it is there, from a list without
repetition. -/
theorem filter_eq_toList {l : List Finding} (hl : l.Nodup) {p : Finding → Prop} [DecidablePred p]
    {kept : Option Finding} (hp : ∀ f ∈ l, p f ↔ kept = some f) (hk : ∀ f ∈ kept, f ∈ l) :
    l.filter p = kept.toList := by
  cases kept with
  | none =>
    rw [Option.toList_none, List.filter_eq_nil_iff]
    intro f hf
    simp [hp f hf]
  | some kept =>
    have hone : l.filter p = l.filter (· = kept) := List.filter_congr fun f hf => by
      simp [hp f hf, eq_comm]
    rw [hone, List.filter_eq, List.count_eq_one_of_mem hl (hk kept rfl)]
    rfl

/-- What is reported at the path of a site is the report on that site, if there is one. -/
theorem filter_path (agent : Agent) (s : Site) :
    (referenceFindings agent).filter (·.path = s.path) = (agent.report? s).toList := by
  refine filter_eq_toList (nodup_referenceFindings agent) (fun f hf => ?_) fun f hf =>
    mem_referenceFindings_iff_report?.2 ⟨s, hf⟩
  have hplace : ∀ {t : Site}, agent.report? t = some f → f.place = t.place := by
    intro t ht
    obtain ⟨r, -, -, rfl⟩ := Agent.report?_eq_some_iff.1 ht
    rfl
  obtain ⟨t, ht⟩ := mem_referenceFindings_iff_report?.1 hf
  constructor
  · intro h
    rw [Finding.path, hplace ht] at h
    rwa [← Site.path_inj.1 h]
  · intro h
    rw [Finding.path, hplace h]
    rfl

/-- The references of an agent are reported where they have no target, and only there: at each of
their sites once, and in the order of the sites. -/
theorem references_exact (agent : Agent) :
    (∀ f, f ∈ referenceFindings agent ↔ ∃ s, agent.report? s = some f) ∧
    (∀ s : Site, (referenceFindings agent).filter (·.path = s.path) =
      (agent.report? s).toList) ∧
    (referenceFindings agent).Pairwise Finding.SiteBefore :=
  ⟨fun _ => mem_referenceFindings_iff_report?, filter_path agent,
    pairwise_referenceFindings agent⟩

/-- An agent whose names all occur somewhere, but not where its first workflow and the tool node of
its second one look for them. -/
def clerk : Agent where
  name := "clerk"
  version := "1.0.0"
  description := ""
  kind := .composite
  goal := none
  criteria := none
  inputSchema := none
  outputSchema := none
  workflows := [
    ⟨"file", "", "sort", [⟨"read", "", none, .task, some "file", ["sort", "sort"], [], []⟩]⟩,
    ⟨"mail", "", "sort", [⟨"sort", "", none, .tool, some "file", [], [], []⟩]⟩]
  modules := []
  prompts := []
  tools := []

example : (referenceFindings clerk).map (·.path) =
    ["workflows[0].entry_node", "workflows[0].nodes[0].depends_on[0]",
      "workflows[0].nodes[0].depends_on[1]", "workflows[0].nodes[0].reference",
      "workflows[1].nodes[0].reference"] := by decide +kernel

end Rule

end AgentSpec
