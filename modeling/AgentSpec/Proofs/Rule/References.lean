import AgentSpec.Proofs.Graph.Names
import AgentSpec.Proofs.Rule.Severity

/-! When every reference of an agent has a target. -/
namespace AgentSpec

/-- A node of the workflow has the name. -/
def Workflow.Declares (w : Workflow) (name : String) : Prop := name ∈ w.nodes.map (·.name)

/-- Something that a node of the kind may refer to has the name. -/
def Agent.Offers (agent : Agent) (kind : NodeKind) (name : String) : Prop :=
  match kind with
  | .task => name ∈ agent.modules.map (·.name) ∨ name ∈ agent.tools.map (·.name)
  | .module => name ∈ agent.modules.map (·.name)
  | .tool => name ∈ agent.tools.map (·.name)
  | .subworkflow => name ∈ agent.workflows.map (·.name)

/-- Every entry node, dependency and reference has a target. -/
structure Agent.HasTargets (agent : Agent) : Prop where
  entries : ∀ w ∈ agent.workflows, w.Declares w.entryNode
  dependencies : ∀ w ∈ agent.workflows, ∀ node ∈ w.nodes, ∀ name ∈ node.dependsOn, w.Declares name
  references : ∀ w ∈ agent.workflows, ∀ node ∈ w.nodes, ∀ target ∈ node.reference,
    agent.Offers node.kind target

namespace Rule

variable {agent : Agent}

theorem contains_names {w : Workflow} {name : String} :
    (NameTable.ofList (w.nodes.map (·.name))).contains name = true ↔ w.Declares name :=
  NameTable.contains_ofList _ _

theorem resolves_iff {kind : NodeKind} {name : String} :
    (Targets.ofAgent agent).resolves kind name = true ↔ agent.Offers kind name := by
  cases kind <;>
    simp only [Targets.resolves, Targets.ofAgent, Agent.Offers, Bool.or_eq_true,
      NameTable.contains_ofList]

theorem nodeReference_error_iff {place : Place} {node : Node} :
    Lacks .error (checkNodeReference (Targets.ofAgent agent) place node).alone ↔
      ∀ target ∈ node.reference, agent.Offers node.kind target := by
  rw [(emits_checkNodeReference (Targets.ofAgent agent) place node).alone_eq]
  cases node.reference with
  | none => simp [Lacks.nil_iff]
  | some target =>
    simp [Lacks.ite_iff, Lacks.nil_iff, Lacks.singleton_iff, Finding.error, ← resolves_iff]

theorem nodeReferences_error_iff {w : Workflow} {place : Place} {node : Node} :
    Lacks .error (checkNodeReferences (Targets.ofAgent agent) (.ofList (w.nodes.map (·.name)))
      place node).alone ↔
      (∀ name ∈ node.dependsOn, w.Declares name) ∧
        ∀ target ∈ node.reference, agent.Offers node.kind target := by
  rw [(emits_checkNodeReferences _ _ place node).alone_eq]
  rw [Lacks.append_iff, nodeReference_error_iff, Lacks.filterMap_unless_iff,
    ← forall_mem_zipIdx (P := w.Declares)]
  simp only [contains_names, Finding.error, forall_const]

theorem references_error_iff : Lacks .error (referenceFindings agent) ↔ agent.HasTargets := by
  have h : Lacks .error (referenceFindings agent) ↔ ∀ w ∈ agent.workflows,
      w.Declares w.entryNode ∧ ∀ node ∈ w.nodes, (∀ name ∈ node.dependsOn, w.Declares name) ∧
        ∀ target ∈ node.reference, agent.Offers node.kind target := by
    rw [referenceFindings, (emits_checkReferences agent).alone_eq]
    rw [Lacks.flatMap_iff, ← forall_mem_zipIdx (l := agent.workflows)]
    refine forall₂_congr fun p _ => ?_
    rw [Lacks.append_iff, Lacks.flatMap_iff]
    refine and_congr ?_ ?_
    · simp [Lacks.ite_iff, Lacks.nil_iff, Lacks.singleton_iff, Finding.error, contains_names]
    · simp only [nodeReferences_error_iff]
      rw [forall_mem_zipIdx (P := fun node : Node =>
        (∀ name ∈ node.dependsOn, p.1.Declares name) ∧
          ∀ target ∈ node.reference, agent.Offers node.kind target)]
  rw [h]
  constructor
  · intro h
    exact ⟨fun w hw => (h w hw).1, fun w hw node hn => ((h w hw).2 node hn).1,
      fun w hw node hn => ((h w hw).2 node hn).2⟩
  · intro h w hw
    obtain ⟨he, hd, hr⟩ := h
    exact ⟨he w hw, fun node hn => ⟨hd w hw node hn, hr w hw node hn⟩⟩

theorem nodeReferences_no_warning {targets : Targets} {nodes : NameTable} {place : Place}
    {node : Node} : Lacks .warning (checkNodeReferences targets nodes place node).alone := by
  rw [(emits_checkNodeReferences targets nodes place node).alone_eq,
    (emits_checkNodeReference targets place node).alone_eq]
  rw [Lacks.append_iff]
  constructor
  · exact Lacks.filterMap_unless_iff.2 fun _ _ => nofun
  · cases node.reference with
    | none => exact Lacks.nil_iff.2 trivial
    | some target =>
      simp [Lacks.ite_iff, Lacks.nil_iff, Lacks.singleton_iff, Finding.error]

theorem references_no_warning : Lacks .warning (referenceFindings agent) := by
  rw [referenceFindings, (emits_checkReferences agent).alone_eq]
  rw [Lacks.flatMap_iff]
  intro p _
  rw [Lacks.append_iff, Lacks.flatMap_iff]
  refine ⟨?_, fun q _ => nodeReferences_no_warning⟩
  simp [Lacks.ite_iff, Lacks.nil_iff, Lacks.singleton_iff, Finding.error]

/-- A missing use is no more than a piece of information. -/
theorem usage_lacks {s : Severity} (hs : s ≠ .info) : Lacks s (usageFindings agent) := by
  rw [usageFindings, (emits_checkUsage agent).alone_eq]
  rw [Lacks.append_iff]
  constructor <;>
  · exact Lacks.filterMap_unless_iff.2 fun _ _ h => (hs h.symm).elim

end Rule

end AgentSpec
