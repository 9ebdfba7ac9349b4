/-! Tags: names for the types of nodes. They are octets, which escapes may choose freely. -/
namespace AgentSpec.Yaml

/-- A tag in full, with its handle resolved. -/
structure Tag where
  octets : List UInt8
deriving DecidableEq

namespace Tag

def octetsOf (text : String) : List UInt8 := text.toUTF8.data.toList

def text? (octets : List UInt8) : Option String := String.fromUTF8? ⟨octets.toArray⟩

/-- Octets up to the first zero, which ends every part of a tag. -/
def cut (octets : List UInt8) : List UInt8 := octets.takeWhile (· != 0)

def standard (name : String) : Tag := ⟨octetsOf ("tag:yaml.org,2002:" ++ name)⟩

/-- A tag outside the standard starts with an exclamation mark. -/
def isLocal (tag : Tag) : Bool := tag.octets.head? == some 0x21

/-- The name that a tag outside the standard gives: the text behind its mark, or the mark if nothing
is behind it. -/
def localName? (tag : Tag) : Option String :=
  if tag.isLocal then
    match tag.octets.drop 1 with
    | [] => some "!"
    | name => text? name
  else none

end Tag

end AgentSpec.Yaml
