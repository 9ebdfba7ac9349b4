import AgentSpec.Compiler
import AgentSpec.Proofs.Rule.Engine

/-! The agents that a compiler writes as documents. -/
namespace AgentSpec

namespace Configuration

/-- The term is one of those in force. -/
def Reserves (c : Configuration) (term : String) : Prop :=
  term ∈ c.replacedTerms.getD Rule.defaultTerms ∨ term ∈ c.extraTerms

variable {c : Configuration}

theorem mem_engine_rules {rule : Rule} : rule ∈ c.engine.rules ↔ rule ∉ c.disabledRules := by
  have h : c.engine.rules = Rule.all.filter (· ∉ c.disabledRules) := by
    unfold engine
    rw [RuleEngine.foldl_without]
    rfl
  rw [h]
  simp [Rule.mem_all]

theorem mem_engine_terms {term : String} : term ∈ c.engine.terms ↔ c.Reserves term := by
  unfold engine
  rw [RuleEngine.foldl_without]
  exact Template.mem_foldl_new _ c.extraTerms

end Configuration

namespace Compiler

/-- There is a document exactly if every rule that is not disabled is content with the agent, and
the document is then the whole agent as text. -/
theorem compile_eq_some_iff (c : Configuration) (agent : Agent) (document : String) :
    ((ofConfiguration c).compile agent).output = some document ↔
      document = agent.render ∧ ∀ rule, rule ∉ c.disabledRules →
        rule.ErrorLaw agent ∧ (c.strict = true → rule.WarningLaw c.Reserves agent) := by
  have hl : ∀ s, Lacks s ((ofConfiguration c).validate agent).findings ↔
      ∀ rule, rule ∉ c.disabledRules → Lacks s (rule.check c.engine.terms agent) := by
    intro s
    rw [validate, RuleEngine.findings_validate]
    refine Lacks.flatMap_iff.trans (forall_congr' fun rule => ?_)
    exact imp_congr_left Configuration.mem_engine_rules
  have hu : ((ofConfiguration c).validate agent).isUsable c.strict = true ↔
      ∀ rule, rule ∉ c.disabledRules →
        rule.ErrorLaw agent ∧ (c.strict = true → rule.WarningLaw c.Reserves agent) := by
    rw [Verdict.isUsable_iff, hl, hl]
    simp only [Rule.check_error_iff, Rule.check_warning_iff,
      Rule.WarningLaw.congr fun _ => Configuration.mem_engine_terms]
    constructor
    · exact fun h rule hr => ⟨h.1 rule hr, fun hs => h.2 hs rule hr⟩
    · exact fun h => ⟨fun rule hr => (h rule hr).1, fun hs rule hr => (h rule hr).2 hs⟩
  rw [← hu]
  change (if ((ofConfiguration c).validate agent).isUsable c.strict = true then some agent.render
    else none) = some document ↔ _
  by_cases h : ((ofConfiguration c).validate agent).isUsable c.strict = true
  · simp [h, eq_comm]
  · simp [h]

end Compiler

end AgentSpec
