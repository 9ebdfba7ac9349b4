/-! How scalars stand in a text. -/
namespace AgentSpec.Yaml

inductive Style where
  | plain
  | singleQuoted
  | doubleQuoted
  | literal
  | folded
deriving DecidableEq

end AgentSpec.Yaml
