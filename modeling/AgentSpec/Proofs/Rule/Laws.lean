import AgentSpec.Proofs.Rule.Boundary
import AgentSpec.Proofs.Rule.Collections
import AgentSpec.Proofs.Rule.Cycles
import AgentSpec.Proofs.Rule.Naming
import AgentSpec.Proofs.Rule.Pass
import AgentSpec.Proofs.Rule.Prompts
import AgentSpec.Proofs.Rule.Reachability
import AgentSpec.Proofs.Rule.References
import AgentSpec.Proofs.Rule.Schemas

/-! What each rule asks of an agent. -/
namespace AgentSpec.Rule

variable {terms : List String} {agent : Agent}

/-- What has to hold of an agent for a rule to find no error. -/
def ErrorLaw : Rule → Agent → Prop
  | .naming, agent => agent.HasIdentifiers
  | .version, agent => ∃ v : Version, v.Proper ∧ agent.version = v.render
  | .uniqueness, agent => agent.HasDistinctNames
  | .references, agent => agent.HasTargets
  | .cycles, agent => (∀ w ∈ agent.workflows, Acyclic w.Feeds) ∧ Acyclic agent.Calls
  | .schemas, agent => agent.HasSchemas
  | .prompts, agent => ∀ prompt ∈ agent.prompts, ∀ name, prompt.Mentions name → Identifier name
  | .emptyCollections, _ => True
  | .unused, _ => True
  | .reachability, _ => True
  | .boundary, _ => True

/-- What has to hold of an agent for a rule to find no warning, given which terms are reserved. -/
def WarningLaw (reserved : String → Prop) : Rule → Agent → Prop
  | .emptyCollections, agent => agent.workflows ≠ [] ∧ ∀ w ∈ agent.workflows, w.nodes ≠ []
  | .reachability, agent => ∀ w ∈ agent.workflows, w.Declares w.entryNode →
      ∀ node ∈ w.nodes, w.Joins w.entryNode node.name
  | .prompts, agent => ∀ prompt ∈ agent.prompts, prompt.parameters ≠ [] →
      ∀ name, prompt.Mentions name → name ∈ prompt.parameters
  | .boundary, agent => ∀ place text, agent.TextAt place text →
      ∀ term, reserved term → ¬ Text.Contains text term
  | .naming, _ => True
  | .version, _ => True
  | .uniqueness, _ => True
  | .references, _ => True
  | .unused, _ => True
  | .cycles, _ => True
  | .schemas, _ => True

/-- A rule finds no error exactly if its law holds. -/
theorem check_error_iff (rule : Rule) :
    Lacks .error (rule.check terms agent) ↔ rule.ErrorLaw agent := by
  cases rule with
  | naming => exact naming_error_iff
  | version => exact version_error_iff
  | uniqueness => exact uniqueness_error_iff
  | emptyCollections => exact iff_true_intro emptiness_no_error
  | references => exact references_error_iff
  | unused => exact iff_true_intro (usage_lacks (by decide))
  | cycles => exact cycles_error_iff
  | reachability => exact iff_true_intro reachability_no_error
  | schemas => exact schemas_error_iff
  | prompts => exact prompts_error_iff
  | boundary => exact iff_true_intro boundary_no_error

/-- A rule finds no warning exactly if its law for warnings holds. -/
theorem check_warning_iff (rule : Rule) :
    Lacks .warning (rule.check terms agent) ↔ rule.WarningLaw (· ∈ terms) agent := by
  cases rule with
  | naming => exact iff_true_intro naming_no_warning
  | version => exact iff_true_intro version_no_warning
  | uniqueness => exact iff_true_intro uniqueness_no_warning
  | emptyCollections => exact emptiness_warning_iff
  | references => exact iff_true_intro references_no_warning
  | unused => exact iff_true_intro (usage_lacks (by decide))
  | cycles => exact iff_true_intro cycles_no_warning
  | reachability => exact reachability_warning_iff
  | schemas => exact iff_true_intro schemas_no_warning
  | prompts => exact prompts_warning_iff
  | boundary => exact boundary_warning_iff

theorem WarningLaw.congr {p q : String → Prop} (h : ∀ term, p term ↔ q term) (rule : Rule) :
    rule.WarningLaw p agent ↔ rule.WarningLaw q agent := by
  rw [show p = q from funext fun term => propext (h term)]

theorem mem_all (rule : Rule) : rule ∈ all := by
  cases rule <;> decide

end AgentSpec.Rule
