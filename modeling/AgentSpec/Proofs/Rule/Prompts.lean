import AgentSpec.Proofs.Identifier
import AgentSpec.Proofs.Rule.Severity
import AgentSpec.Proofs.Template

/-! When the placeholders of prompts are in order. -/
namespace AgentSpec

/-- A placeholder of the name stands in the template. -/
def Prompt.Mentions (prompt : Prompt) (name : String) : Prop :=
  Template.Occurs prompt.template.toList name.toList

namespace Rule

variable {agent : Agent} {prompt : Prompt} {i : Nat}

theorem malformed_error_iff {place : Place} :
    Lacks .error ((Template.placeholders prompt.template).filterMap fun name =>
      if isIdentifier name then none
      else some (.error place (.invalidFormat "placeholder" name identifierPattern))) ↔
      ∀ name, prompt.Mentions name → Identifier name := by
  rw [Lacks.filterMap_unless_iff]
  simp [Template.mem_placeholders_iff, isIdentifier_iff, Finding.error, Prompt.Mentions]

theorem malformed_no_warning {place : Place} {names : List String} :
    Lacks .warning (names.filterMap fun name =>
      if isIdentifier name then none
      else some (.error place (.invalidFormat "placeholder" name identifierPattern))) :=
  Lacks.filterMap_unless_iff.2 fun _ _ => nofun

theorem undeclared_warning_iff {place : Place} :
    Lacks .warning ((Template.placeholders prompt.template).filterMap fun name =>
      if prompt.parameters.contains name then none
      else some (.warning place (.unresolved prompt.name name))) ↔
      ∀ name, prompt.Mentions name → name ∈ prompt.parameters := by
  rw [Lacks.filterMap_unless_iff]
  simp [Template.mem_placeholders_iff, Finding.warning, Prompt.Mentions]

theorem undeclared_no_error {place : Place} {names : List String} :
    Lacks .error (names.filterMap fun name =>
      if prompt.parameters.contains name then none
      else some (.warning place (.unresolved prompt.name name))) :=
  Lacks.filterMap_unless_iff.2 fun _ _ => nofun

theorem unusedParameters_lacks {s : Severity} (hs : s ≠ .info) {place : Place} {owner : String}
    {placeholders : List String} {parameters : List (String × Nat)} :
    Lacks s (parameters.filterMap fun p =>
      if placeholders.contains p.1 then none
      else some (.info (place.item p.2) (.unused owner p.1))) :=
  Lacks.filterMap_unless_iff.2 fun _ _ h => (hs h.symm).elim

theorem prompt_error_iff : Lacks .error (checkPrompt prompt i).alone ↔
    ∀ name, prompt.Mentions name → Identifier name := by
  rw [(emits_checkPrompt prompt i).alone_eq]
  dsimp only
  split
  · exact malformed_error_iff
  · rw [Lacks.append_iff, Lacks.append_iff, malformed_error_iff]
    exact ⟨fun h => h.1.1, fun h => ⟨⟨h, undeclared_no_error⟩, unusedParameters_lacks (by decide)⟩⟩

theorem prompt_warning_iff : Lacks .warning (checkPrompt prompt i).alone ↔
    (prompt.parameters ≠ [] → ∀ name, prompt.Mentions name → name ∈ prompt.parameters) := by
  rw [(emits_checkPrompt prompt i).alone_eq]
  dsimp only
  split
  · rename_i h
    rw [List.isEmpty_iff] at h
    exact iff_of_true malformed_no_warning fun hne => absurd h hne
  · rename_i h
    rw [List.isEmpty_iff] at h
    rw [Lacks.append_iff, Lacks.append_iff, undeclared_warning_iff]
    constructor
    · exact fun hl _ => hl.1.2
    · exact fun hl => ⟨⟨malformed_no_warning, hl h⟩, unusedParameters_lacks (by decide)⟩

/-- There is no error if all placeholders are identifiers. -/
theorem prompts_error_iff : Lacks .error (promptFindings agent) ↔
    ∀ prompt ∈ agent.prompts, ∀ name, prompt.Mentions name → Identifier name := by
  rw [promptFindings, (emits_checkPrompts agent).alone_eq]
  rw [Lacks.flatMap_iff, ← forall_mem_zipIdx (l := agent.prompts)]
  exact forall₂_congr fun p _ => prompt_error_iff

/-- There is no warning if prompts that declare parameters declare all placeholders. -/
theorem prompts_warning_iff : Lacks .warning (promptFindings agent) ↔
    ∀ prompt ∈ agent.prompts, prompt.parameters ≠ [] →
      ∀ name, prompt.Mentions name → name ∈ prompt.parameters := by
  rw [promptFindings, (emits_checkPrompts agent).alone_eq]
  rw [Lacks.flatMap_iff, ← forall_mem_zipIdx (l := agent.prompts)]
  exact forall₂_congr fun p _ => prompt_warning_iff

end Rule

end AgentSpec
