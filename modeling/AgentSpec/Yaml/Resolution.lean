import AgentSpec.Yaml.Scalar
import AgentSpec.Yaml.Style
import AgentSpec.Yaml.Tag

/-! What a scalar stands for by its tag, its style and its text. -/
namespace AgentSpec.Yaml

/-- The types whose standard tags demand a text that fits them. -/
inductive StandardType where
  | null
  | bool
  | int
  | float
deriving DecidableEq

namespace StandardType

def all : List StandardType := [null, bool, int, float]

def name : StandardType → String
  | null => "null"
  | bool => "bool"
  | int => "int"
  | float => "float"

def wanted : StandardType → String
  | null => "null"
  | bool => "a boolean"
  | int => "an integer"
  | float => "a float"

def read (type : StandardType) (text : String) : Option Meaning :=
  match type with
  | null => if isNull text then some .null else none
  | bool => (bool? text).map .bool
  | int => (integer? text.toList).bind ofInteger
  | float => float? text

def ofTag? (tag : Option Tag) : Option StandardType :=
  all.find? fun type => tag == some (Tag.standard type.name)

end StandardType

/-- What a scalar stands for, or the type that its tag demands in vain. Only a plain scalar without
a tag of the standard stands for anything else than its text unless the tag demands it. -/
def scalarMeaning (tag : Option Tag) (style : Style) (text : String) :
    Except StandardType Meaning :=
  match StandardType.ofTag? tag with
  | some type => (type.read text).elim (.error type) .ok
  | none => .ok (if style == .plain && tag.all (·.isLocal) then meaning text else .text)

end AgentSpec.Yaml
