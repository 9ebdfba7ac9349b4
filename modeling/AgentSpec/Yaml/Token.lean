import AgentSpec.Yaml.Style
import AgentSpec.Yaml.Tag

/-! The tokens of a YAML text. Block structure is told by tokens of its own. -/
namespace AgentSpec.Yaml

inductive Token where
  | version (major minor : Nat)
  | tagDirective (handle : String) (lead : List UInt8)
  | documentStart
  | documentEnd
  | blockSequenceStart
  | blockMappingStart
  | blockEnd
  | flowSequenceStart
  | flowSequenceEnd
  | flowMappingStart
  | flowMappingEnd
  | blockEntry
  | flowEntry
  | key
  | value
  | alias (name : String)
  | anchor (name : String)
  | tag (handle : String) (suffix : List UInt8)
  | scalar (style : Style) (text : String)
  | streamEnd
deriving DecidableEq

end AgentSpec.Yaml
