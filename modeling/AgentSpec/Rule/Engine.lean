import AgentSpec.Rule.Boundary
import AgentSpec.Rule.Collections
import AgentSpec.Rule.Dependencies
import AgentSpec.Rule.Naming
import AgentSpec.Rule.Prompts
import AgentSpec.Rule.References
import AgentSpec.Rule.Schemas

/-! The rules by name, and the engine that applies a choice of them. -/
namespace AgentSpec

inductive Rule where
  | naming
  | version
  | uniqueness
  | emptyCollections
  | references
  | unused
  | cycles
  | reachability
  | schemas
  | prompts
  | boundary
deriving DecidableEq

/-- A choice of rules and the reserved terms to look for. -/
structure RuleEngine where
  rules : List Rule
  terms : List String
deriving DecidableEq

namespace Rule

/-- Every rule in the order of application. -/
def all : List Rule :=
  [.naming, .version, .uniqueness, .emptyCollections, .references, .unused, .cycles,
   .reachability, .schemas, .prompts, .boundary]

def name : Rule → String
  | .naming => "naming"
  | .version => "version"
  | .uniqueness => "uniqueness"
  | .emptyCollections => "empty_collections"
  | .references => "references"
  | .unused => "unused"
  | .cycles => "cycles"
  | .reachability => "reachability"
  | .schemas => "schemas"
  | .prompts => "prompts"
  | .boundary => "boundary"

/-- The check of a rule; only the boundary rule looks at the terms. -/
def pass (terms : List String) (agent : Agent) : Rule → Check
  | .naming => checkNames agent
  | .version => checkVersion agent
  | .uniqueness => checkUniqueness agent
  | .emptyCollections => checkEmptiness agent
  | .references => checkReferences agent
  | .unused => checkUsage agent
  | .cycles => checkCycles agent
  | .reachability => checkReachability agent
  | .schemas => checkSchemas agent
  | .prompts => checkPrompts agent
  | .boundary => checkBoundary terms agent

/-- What a rule finds if nothing has been found before. -/
def check (terms : List String) (agent : Agent) (rule : Rule) : List Finding :=
  (rule.pass terms agent).alone

end Rule

inductive EngineChange where
  | only (rules : List Rule)
  | without (rule : Rule)
  | terms (terms : List String)
  /-- Adds reserved terms that are not there yet. -/
  | extraTerms (terms : List String)
deriving DecidableEq

namespace RuleEngine

def standard : RuleEngine := ⟨Rule.all, Rule.defaultTerms⟩

/-- A list with those new elements that it does not have yet. -/
def appendNew (old new : List String) : List String :=
  new.foldl (fun terms term => if terms.contains term then terms else terms ++ [term]) old

/-- The rules are always applied in the same order, whatever the order in which they are named. -/
def change (engine : RuleEngine) : EngineChange → RuleEngine
  | .only rules => { engine with rules := Rule.all.filter (rules.contains ·) }
  | .without rule => { engine with rules := engine.rules.filter (· != rule) }
  | .terms terms => { engine with terms }
  | .extraTerms terms => { engine with terms := appendNew engine.terms terms }

/-- The rules one after the other; each is handed what those before it have found. -/
def pass (engine : RuleEngine) (agent : Agent) : Check :=
  Check.each engine.rules (Rule.pass engine.terms agent)

def validate (engine : RuleEngine) (agent : Agent) : Verdict := ⟨(engine.pass agent).alone⟩

end RuleEngine

end AgentSpec
