import AgentSpec.Finding
import AgentSpec.Proofs.Text.Lines

/-! When the line of a finding is one line: nothing is escaped in it, so that this depends on the
texts that the finding shows. -/
namespace AgentSpec

open Text

/-- The step does not lead through a name of more than one line. -/
def Step.OneLine : Step → Prop
  | .field name => SingleLine name
  | .item _ => True

@[simp] theorem Step.oneLine_field {name : String} : (field name).OneLine ↔ SingleLine name :=
  Iff.rfl

@[simp] theorem Step.oneLine_item (i : Nat) : (item i).OneLine := trivial

def Place.OneLine (place : Place) : Prop := ∀ step ∈ place, step.OneLine

namespace Place

variable {place : Place} {name : String}

theorem oneLine_append {route : Place} : (place ++ route).OneLine ↔ place.OneLine ∧ route.OneLine :=
  List.forall_mem_append

@[simp] theorem oneLine_field : (place.field name).OneLine ↔ place.OneLine ∧ SingleLine name := by
  simp [field, OneLine, or_imp, forall_and]

@[simp] theorem oneLine_item {i : Nat} : (place.item i).OneLine ↔ place.OneLine := by
  simp [item, OneLine, or_imp, forall_and]

@[simp] theorem oneLine_top : (top name).OneLine ↔ SingleLine name := by
  simp [top, OneLine]

@[simp] theorem oneLine_entry {i : Nat} : (entry name i).OneLine ↔ SingleLine name := by
  simp [entry, OneLine]

@[simp] theorem oneLine_node (i j : Nat) : (node i j).OneLine := by
  simp +decide [node, OneLine]

theorem singleLine_renderRest : SingleLine (render.renderRest place) ↔ place.OneLine := by
  induction place with
  | nil => exact iff_of_true (by decide) nofun
  | cons step rest ih =>
    unfold OneLine at ih ⊢
    rw [List.forall_mem_cons, ← ih]
    cases step with
    | field name => simp +decide [render.renderRest]
    | item i => simp +decide [render.renderRest]

theorem singleLine_render : SingleLine place.render ↔ place.OneLine := by
  cases place with
  | nil => exact iff_of_true (by decide) nofun
  | cons step rest =>
    have hrest : SingleLine (render.renderRest rest) ↔ ∀ step ∈ rest, step.OneLine :=
      singleLine_renderRest
    unfold OneLine
    rw [List.forall_mem_cons, ← hrest]
    cases step with
    | field name => simp [render]
    | item i => simp +decide [render]

end Place

/-- The texts of a defect in the order in which its message shows them. -/
def Defect.texts : Defect → List String
  | missingField field builder => [field, builder]
  | invalidFormat field value expected => [field, value, expected]
  | unresolved origin target => [origin, target]
  | duplicate scope name => [name, scope]
  | emptyCollection collection parent => [parent, collection]
  | cycle workflow path => workflow :: path
  | unreachable workflow node => [node, workflow]
  | unused owner name => [owner, name]
  | reservedTerm location term => [location, term]

theorem Defect.singleLine_message {defect : Defect} :
    SingleLine defect.message ↔ ∀ text ∈ defect.texts, SingleLine text := by
  unfold message texts
  cases defect with
  | cycle workflow path =>
    have hpath : SingleLine (" -> ".intercalate path) ↔ ∀ text ∈ path, SingleLine text :=
      singleLine_intercalate (by decide)
    simp only [singleLine_append, hpath, List.forall_mem_cons]
    simp [SingleLine]
  | _ =>
    simp only [singleLine_append, List.forall_mem_cons]
    simp [SingleLine, and_assoc]

theorem Defect.singleLine_code (defect : Defect) : SingleLine defect.code := by
  cases defect <;> simp +decide [code]

namespace Finding

/-- Neither the place nor the defect holds a text of more than one line. -/
structure OneLine (f : Finding) : Prop where
  place : f.place.OneLine
  texts : ∀ text ∈ f.defect.texts, SingleLine text

@[simp] theorem oneLine_error {place : Place} {defect : Defect} :
    (error place defect).OneLine ↔ place.OneLine ∧ ∀ text ∈ defect.texts, SingleLine text :=
  ⟨fun h => ⟨h.place, h.texts⟩, fun h => ⟨h.1, h.2⟩⟩

@[simp] theorem oneLine_warning {place : Place} {defect : Defect} :
    (warning place defect).OneLine ↔ place.OneLine ∧ ∀ text ∈ defect.texts, SingleLine text :=
  ⟨fun h => ⟨h.place, h.texts⟩, fun h => ⟨h.1, h.2⟩⟩

@[simp] theorem oneLine_info {place : Place} {defect : Defect} :
    (info place defect).OneLine ↔ place.OneLine ∧ ∀ text ∈ defect.texts, SingleLine text :=
  ⟨fun h => ⟨h.place, h.texts⟩, fun h => ⟨h.1, h.2⟩⟩

theorem singleLine_line {f : Finding} : SingleLine f.line ↔ f.OneLine := by
  have hlabel : SingleLine f.severity.label := by cases f.severity <;> decide
  have hpath : SingleLine f.path ↔ f.place.OneLine := Place.singleLine_render
  have hmessage : SingleLine f.message ↔ ∀ text ∈ f.defect.texts, SingleLine text :=
    Defect.singleLine_message
  have hline : SingleLine f.line ↔ SingleLine f.path ∧ SingleLine f.message := by
    simp +decide [line, hlabel, f.defect.singleLine_code, code]
  rw [hline, hpath, hmessage]
  exact ⟨fun h => ⟨h.1, h.2⟩, fun h => ⟨h.place, h.texts⟩⟩

end Finding

end AgentSpec
