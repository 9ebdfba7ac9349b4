/-! Names that every entity must have. -/
namespace AgentSpec

def identifierPattern : String := "[A-Za-z_][A-Za-z0-9_-]*"

/-- What an identifier may start with: an ASCII letter or an underscore. -/
def isIdentifierStart (c : Char) : Bool := c.isAlpha || c == '_'

/-- What an identifier may go on with: an ASCII letter or digit, an underscore or a hyphen. -/
def isIdentifierPart (c : Char) : Bool := c.isAlphanum || c == '_' || c == '-'

def isIdentifier (s : String) : Bool :=
  match s.toList with
  | c :: rest => isIdentifierStart c && rest.all isIdentifierPart
  | [] => false

end AgentSpec
