import AgentSpec.Proofs.Rule.SchemaParts

/-! What the rules of an engine add to what has been found, each by itself and all in turn. -/
namespace AgentSpec

/-- No rule looks at what the rules before it have found, and none takes anything back. -/
theorem Rule.appends_pass (terms : List String) (agent : Agent) (rule : Rule) :
    (rule.pass terms agent).Appends := by
  cases rule with
  | naming => exact (emits_checkNames agent).appends
  | version => exact (emits_checkVersion agent).appends
  | uniqueness => exact (emits_checkUniqueness agent).appends
  | emptyCollections => exact (emits_checkEmptiness agent).appends
  | references => exact (emits_checkReferences agent).appends
  | unused => exact (emits_checkUsage agent).appends
  | cycles => exact (emits_checkCycles agent).appends
  | reachability => exact (emits_checkReachability agent).appends
  | schemas => exact (emits_checkSchemas agent).appends
  | prompts => exact (emits_checkPrompts agent).appends
  | boundary => exact (emits_checkBoundary terms agent).appends

namespace RuleEngine

theorem emits_pass (engine : RuleEngine) (agent : Agent) :
    (engine.pass agent).Emits (engine.rules.flatMap (Rule.check engine.terms agent)) :=
  .each engine.rules (Rule.appends_pass engine.terms agent)

/-- The findings of each rule stand in one piece, in the order of the rules. -/
theorem findings_validate (engine : RuleEngine) (agent : Agent) :
    (engine.validate agent).findings = engine.rules.flatMap (Rule.check engine.terms agent) :=
  (emits_pass engine agent).alone_eq

end RuleEngine

end AgentSpec
