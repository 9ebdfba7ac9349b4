import AgentSpec.Rule.Engine
import AgentSpec.Text.Blank
import AgentSpec.Yaml.Shape

/-! How strictly a compiler works, and what its rules are told. -/
namespace AgentSpec

structure Configuration where
  strict : Bool := false
  disabledRules : List Rule := []
  /-- Reserved terms beside the usual ones. -/
  extraTerms : List String := []
  /-- Reserved terms that are taken instead of the usual ones. -/
  replacedTerms : Option (List String) := none
deriving DecidableEq

inductive ConfigurationChange where
  | strict (strict : Bool)
  | disable (rule : Rule)
  | extraTerms (terms : List String)
  | terms (terms : List String)
deriving DecidableEq

namespace Configuration

/-- A rule is disabled once only, extra terms add up, and all else is replaced. -/
def change (c : Configuration) : ConfigurationChange → Configuration
  | .strict strict => { c with strict }
  | .disable rule =>
    if c.disabledRules.contains rule then c
    else { c with disabledRules := c.disabledRules ++ [rule] }
  | .extraTerms terms => { c with extraTerms := c.extraTerms ++ terms }
  | .terms terms => { c with replacedTerms := some terms }

def engine (c : Configuration) : RuleEngine :=
  let terms := c.replacedTerms.getD Rule.defaultTerms
  let engine := (RuleEngine.standard.change (.terms terms)).change (.extraTerms c.extraTerms)
  c.disabledRules.foldl (fun engine rule => engine.change (.without rule)) engine

/-- A configuration as it stands in a file. -/
def shape : Yaml.Shape Configuration :=
  let rules := Rule.all.map fun rule => (rule.name, rule)
  .record "CompilerConfig"
    [.of "strict" .bool fun strict c => { c with strict },
     .of "disabled_rules" (.list (.choice rules)) fun disabledRules c => { c with disabledRules },
     .of "extra_reserved_terms" (.list .text) fun extraTerms c => { c with extraTerms },
     .of "replace_reserved_terms" (.optional (.list .text))
       fun replacedTerms c => { c with replacedTerms }]
    {}

/-- The configuration that a text describes. A blank text asks for nothing. -/
def load (text : String) : Except Yaml.Failure Configuration :=
  if Text.allBlank text then .ok {} else (Yaml.Document.ofText text).read shape

end Configuration

end AgentSpec
