import AgentSpec.Configuration
import AgentSpec.Document.Text

/-! Compiling: an agent that nothing speaks against is written as a document. -/
namespace AgentSpec

/-- The rules to apply, and whether warnings stand in the way. -/
structure Compiler where
  engine : RuleEngine
  strict : Bool
deriving DecidableEq

structure Compilation where
  verdict : Verdict
  output : Option String
  outputPath : Option String := none
deriving DecidableEq

namespace Compilation

def isSuccessful (c : Compilation) : Bool := c.output.isSome

end Compilation

namespace Compiler

def ofConfiguration (c : Configuration) : Compiler := ⟨c.engine, c.strict⟩

def validate (compiler : Compiler) (agent : Agent) : Verdict := compiler.engine.validate agent

/-- The findings, and the document if they allow it. -/
def compile (compiler : Compiler) (agent : Agent) : Compilation :=
  let verdict := compiler.validate agent
  { verdict, output := if verdict.isUsable compiler.strict then some agent.render else none }

end Compiler

end AgentSpec
