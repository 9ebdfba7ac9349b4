import AgentSpec.Proofs.Document.Staged
import AgentSpec.Proofs.Except
import Mathlib.Tactic.MkIffOfInductiveProp

/-! What a document must hold to describe an agent, and which of the fields that are missing is
reported. -/
namespace AgentSpec

/-- A field that a part of a document must have, and the builder that asks for it. -/
structure Requirement where
  field : String
  builder : String
  /-- What the document has there. -/
  value : Option String

namespace Requirement

def Met (r : Requirement) : Prop := r.value.isSome

def defect (r : Requirement) : Defect := .missingField r.field r.builder

/-- The report on the first of some requirements that is not met. -/
def firstMissing? (rs : List Requirement) : Option Defect :=
  (rs.find? (·.value.isNone)).map defect

variable {rs rs' : List Requirement}

theorem firstMissing?_append :
    firstMissing? (rs ++ rs') = (firstMissing? rs).or (firstMissing? rs') := by
  unfold firstMissing?
  rw [List.find?_append]
  cases rs.find? (·.value.isNone) <;> rfl

theorem firstMissing?_eq_none_iff : firstMissing? rs = none ↔ ∀ r ∈ rs, r.Met := by
  simp [firstMissing?, Met, Option.isSome_iff_ne_none]

theorem firstMissing?_eq_some_iff {defect : Defect} : firstMissing? rs = some defect ↔
    ∃ before missing after, rs = before ++ missing :: after ∧ (∀ r ∈ before, r.Met) ∧
      ¬ missing.Met ∧ defect = .missingField missing.field missing.builder := by
  unfold firstMissing?
  simp only [Option.map_eq_some_iff, List.find?_eq_some_iff_append]
  constructor
  · intro h
    obtain ⟨missing, ⟨hm, before, after, hrs, hb⟩, rfl⟩ := h
    refine ⟨before, missing, after, hrs, fun r hr => ?_, ?_, rfl⟩
    · simpa [Met] using hb r hr
    · simpa [Met] using hm
  · intro h
    obtain ⟨before, missing, after, hrs, hb, hm, rfl⟩ := h
    refine ⟨missing, ⟨?_, before, after, hrs, fun r hr => ?_⟩, rfl⟩
    · simpa [Met] using hm
    · simpa [Met] using hb r hr

/-- The steps succeed if the requirements are met, and else report the first that is not. -/
def DecideOn {α : Type} (rs : List Requirement) (x : Except Defect α) : Prop :=
  failure? x = firstMissing? rs

namespace DecideOn

variable {α β : Type} {x : Except Defect α} {f : α → Except Defect β}

theorem pure (a : α) : DecideOn [] (Pure.pure a : Except Defect α) := rfl

theorem require (field builder : String) (value : Option String) :
    DecideOn [⟨field, builder, value⟩] (Draft.require value field builder) := by
  cases value <;> rfl

theorem bind (hx : DecideOn rs x) (hf : ∀ a, DecideOn rs' (f a)) :
    DecideOn (rs ++ rs') (x >>= f) := by
  unfold DecideOn
  rw [failure?_bind hf, hx, firstMissing?_append]

theorem map (f : α → β) (hx : DecideOn rs x) : DecideOn rs (f <$> x) := (failure?_map f).trans hx

theorem mapM {f : α → Except Defect β} {g : α → List Requirement} (h : ∀ a, DecideOn (g a) (f a))
    (as : List α) : DecideOn (as.flatMap g) (as.mapM f) := by
  induction as with
  | nil => exact pure []
  | cons a rest ih =>
    rw [List.mapM_cons, List.flatMap_cons]
    refine (h a).bind fun b => ?_
    rw [← List.append_nil (rest.flatMap g)]
    exact ih.bind fun bs => pure (b :: bs)

end DecideOn

end Requirement

open Requirement

/-! Every part of a document has its requirements in the order in which they are looked at. A part
is complete when the same fields are there, whatever their order. -/

namespace CriteriaDocument

def requirements (d : CriteriaDocument) : List Requirement :=
  [⟨"success", "CompletionCriteriaBuilder", d.success⟩,
   ⟨"failure", "CompletionCriteriaBuilder", d.failure⟩]

@[mk_iff]
structure Complete (d : CriteriaDocument) : Prop where
  success : d.success.isSome
  failure : d.failure.isSome

theorem met_iff {d : CriteriaDocument} : (∀ r ∈ d.requirements, r.Met) ↔ d.Complete := by
  simp [requirements, complete_iff, Met]

theorem decideOn_define (d : CriteriaDocument) : DecideOn d.requirements d.define := by
  rw [define_eq]
  exact (DecideOn.require ..).bind fun _ => (DecideOn.require ..).bind fun _ => .pure _

end CriteriaDocument

namespace NodeDocument

/-- Every node but a task needs a reference. -/
def requirements (d : NodeDocument) : List Requirement :=
  [⟨"name", "NodeBuilder", d.name⟩, ⟨"goal", "NodeBuilder", d.goal⟩] ++
    if d.kind = .task then [] else [⟨"reference", "NodeBuilder", d.reference⟩]

@[mk_iff]
structure Complete (d : NodeDocument) : Prop where
  name : d.name.isSome
  goal : d.goal.isSome
  reference : d.kind = .module ∨ d.kind = .tool ∨ d.kind = .subworkflow → d.reference.isSome

theorem met_iff {d : NodeDocument} : (∀ r ∈ d.requirements, r.Met) ↔ d.Complete := by
  cases hk : d.kind <;> simp [requirements, complete_iff, Met, hk]

theorem decideOn_define (d : NodeDocument) : DecideOn d.requirements d.define := by
  rw [define_eq]
  refine (DecideOn.require ..).bind fun name => (DecideOn.require ..).bind fun goal => ?_
  -- what is left is the guard for the reference
  cases hk : d.kind <;> cases hr : d.reference <;> rfl

end NodeDocument

namespace WorkflowDocument

/-- The nodes are looked at before the workflow itself. -/
def requirements (d : WorkflowDocument) : List Requirement :=
  d.nodes.flatMap (·.requirements) ++
    [⟨"name", "WorkflowBuilder", d.name⟩, ⟨"entry_node", "WorkflowBuilder", d.entryNode⟩]

@[mk_iff]
structure Complete (d : WorkflowDocument) : Prop where
  nodes : ∀ node ∈ d.nodes, node.Complete
  name : d.name.isSome
  entryNode : d.entryNode.isSome

theorem met_iff {d : WorkflowDocument} : (∀ r ∈ d.requirements, r.Met) ↔ d.Complete := by
  simp only [requirements, List.forall_mem_append, List.forall_mem_flatMap, NodeDocument.met_iff,
    complete_iff]
  simp [Met]

theorem decideOn_define (d : WorkflowDocument) : DecideOn d.requirements d.define := by
  rw [define_eq]
  exact (DecideOn.mapM NodeDocument.decideOn_define d.nodes).bind fun _ =>
    (DecideOn.require ..).bind fun _ => (DecideOn.require ..).bind fun _ => .pure _

end WorkflowDocument

namespace CapabilityDocument

def requirements (builder : String) (d : CapabilityDocument) : List Requirement :=
  [⟨"name", builder, d.name⟩]

theorem decideOn_define (role : CapabilityRole) (d : CapabilityDocument) :
    DecideOn (d.requirements role.builder) (d.define role) := by
  rw [define_eq]
  exact (DecideOn.require ..).bind fun _ => .pure _

end CapabilityDocument

namespace PromptDocument

def requirements (d : PromptDocument) : List Requirement :=
  [⟨"name", "PromptBuilder", d.name⟩, ⟨"template", "PromptBuilder", d.template⟩]

@[mk_iff]
structure Complete (d : PromptDocument) : Prop where
  name : d.name.isSome
  template : d.template.isSome

theorem met_iff {d : PromptDocument} : (∀ r ∈ d.requirements, r.Met) ↔ d.Complete := by
  simp [requirements, complete_iff, Met]

theorem decideOn_define (d : PromptDocument) : DecideOn d.requirements d.define := by
  rw [define_eq]
  exact (DecideOn.require ..).bind fun _ => (DecideOn.require ..).bind fun _ => .pure _

end PromptDocument

namespace AgentDocument

/-- All that a document must hold, in the order in which it is looked at: the agent comes after its
parts. -/
def requirements (d : AgentDocument) : List Requirement :=
  d.criteria.toList.flatMap (·.requirements) ++
  (d.workflows.flatMap (·.requirements) ++
  (d.modules.flatMap (·.requirements "ModuleBuilder") ++
  (d.prompts.flatMap (·.requirements) ++
  (d.tools.flatMap (·.requirements "ToolBuilder") ++
  [⟨"name", "AgentBuilder", d.name⟩, ⟨"version", "AgentBuilder", d.version⟩]))))

/-- Everything that a document must hold is there. -/
@[mk_iff]
structure Complete (d : AgentDocument) : Prop where
  criteria : ∀ criteria ∈ d.criteria, criteria.Complete
  workflows : ∀ w ∈ d.workflows, w.Complete
  modules : ∀ m ∈ d.modules, m.name.isSome
  prompts : ∀ prompt ∈ d.prompts, prompt.Complete
  tools : ∀ tool ∈ d.tools, tool.name.isSome
  name : d.name.isSome
  version : d.version.isSome

theorem met_iff {d : AgentDocument} : (∀ r ∈ d.requirements, r.Met) ↔ d.Complete := by
  simp only [requirements, List.forall_mem_append, List.forall_mem_flatMap, Option.mem_toList,
    CriteriaDocument.met_iff, WorkflowDocument.met_iff, PromptDocument.met_iff, complete_iff]
  simp [CapabilityDocument.requirements, Met]

theorem decideOn_defineCriteria (d : Option CriteriaDocument) :
    DecideOn (d.toList.flatMap (·.requirements)) (defineCriteria d) := by
  cases d with
  | none => rfl
  | some d =>
    rw [Option.toList_some, List.flatMap_singleton]
    exact (CriteriaDocument.decideOn_define d).map some

theorem decideOn_define (d : AgentDocument) : DecideOn d.requirements d.define := by
  rw [define_eq]
  exact (decideOn_defineCriteria d.criteria).bind fun _ =>
    (DecideOn.mapM WorkflowDocument.decideOn_define d.workflows).bind fun _ =>
    (DecideOn.mapM (CapabilityDocument.decideOn_define .module) d.modules).bind fun _ =>
    (DecideOn.mapM PromptDocument.decideOn_define d.prompts).bind fun _ =>
    (DecideOn.mapM (CapabilityDocument.decideOn_define .tool) d.tools).bind fun _ =>
    (DecideOn.require ..).bind fun _ => (DecideOn.require ..).bind fun _ => .pure _

/-- A document describes an agent if it is complete. Otherwise the first of its requirements that is
not met is reported, whatever else is missing. -/
theorem define_reports_first (d : AgentDocument) :
    ((∃ agent, d.define = .ok agent) ↔ d.Complete) ∧
    ∀ defect, d.define = .error defect ↔ ∃ before missing after,
      d.requirements = before ++ missing :: after ∧ (∀ r ∈ before, r.Met) ∧ ¬ missing.Met ∧
        defect = .missingField missing.field missing.builder := by
  have h : failure? d.define = firstMissing? d.requirements := decideOn_define d
  constructor
  · rw [← failure?_eq_none_iff, h, firstMissing?_eq_none_iff, met_iff]
  · intro defect
    rw [← failure?_eq_some_iff, h, firstMissing?_eq_some_iff]

/-- A node without a goal is reported before its workflow, which has no name, and before the agent,
which has none either. -/
example : define { workflows := [{ nodes := [{ name := some "a", kind := .tool }] }] } =
    .error (.missingField "goal" "NodeBuilder") := rfl

end AgentDocument

end AgentSpec
