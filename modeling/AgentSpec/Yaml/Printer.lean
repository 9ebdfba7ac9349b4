import AgentSpec.Json.Value
import AgentSpec.Yaml.Character
import AgentSpec.Yaml.Scalar

/-!
YAML text of a value in block style. Levels are indented by two spaces, but a list below a key
stands at the level of the key. Lines are never folded.
-/
namespace AgentSpec.Yaml

/-- Numbers are positional from `1e-5` to below `1e16`. -/
def numberLayout : NumberLayout := ⟨-5, 15, ""⟩

def hasNeighbours (related : Char → Char → Bool) : List Char → Bool
  | a :: b :: rest => related a b || hasNeighbours related (b :: rest)
  | _ => false

/-- Whether the first character keeps a text from being plain. -/
def hasLeadingIndicator : List Char → Bool
  | [] => false
  | c :: rest =>
    "#,[]\x7b\x7d&*!|>'\"%@`".toList.contains c ||
      ((c == '?' || c == ':' || c == '-') && atSpace rest)

/-- Whether a later character keeps a text from being plain: a colon in front of white space or a
hash sign behind it. -/
def hasInnerIndicator : List Char → Bool
  | a :: b :: rest =>
    (b == ':' && atSpace rest) || (b == '#' && (isBlank a || isBreak a)) ||
      hasInnerIndicator (b :: rest)
  | _ => false

def startsLikeMarker : List Char → Bool
  | '-' :: '-' :: '-' :: _ => true
  | '.' :: '.' :: '.' :: _ => true
  | _ => false

/-- Whether a text begins or ends with a character of a class. -/
def touches (p : Char → Bool) (text : List Char) : Bool := text.head?.any p || text.getLast?.any p

def isMultiline (text : List Char) : Bool := text.any isBreak

/-- Whether a text has a blank in front of a line break, or a character that needs an escape. -/
def needsEscapes (text : List Char) : Bool :=
  hasNeighbours (fun a b => a == ' ' && isBreak b) text || !text.all isPrintable

/-- Whether a text has a blank after a line break. -/
def hasIndentedLine (text : List Char) : Bool :=
  hasNeighbours (fun a b => isBreak a && b == ' ') text

def allowsPlain (text : List Char) : Bool :=
  !(hasLeadingIndicator text || hasInnerIndicator text || startsLikeMarker text
    || touches (fun c => c == ' ' || isBreak c) text || isMultiline text || needsEscapes text)

def allowsSingleQuotes (text : List Char) : Bool := !(needsEscapes text || hasIndentedLine text)

def allowsBlock (text : List Char) : Bool :=
  !(text.isEmpty || needsEscapes text || text.getLast? == some ' ')

/-- Whether a string would be read as something else if it were plain. -/
def isAmbiguous (s : String) : Bool := meaning s != .text || isZeroPadded s.toList

def spaces (count : Nat) : List Char := List.replicate count ' '

/-- The lines of a text, all but blank ones indented; `fresh` says that a line has just begun. -/
def indentLines (indent : Nat) (fresh : Bool) : List Char → List Char
  | [] => []
  | c :: rest =>
    if isBreak c then c :: indentLines indent true rest
    else (if fresh then spaces indent else []) ++ c :: indentLines indent false rest

/-- The mark for what follows the last line: no line break, one, or all that there are. -/
def chomping (text : List Char) : List Char :=
  match text.reverse with
  | [] => ['-']
  | last :: before =>
    if !isBreak last then ['-']
    else
      match before with
      | [] => ['+']
      | c :: _ => if isBreak c then ['+'] else []

def literalBlock (indent : Nat) (text : List Char) : List Char :=
  let hint := if text.head?.any fun c => c == ' ' || isBreak c then ['2'] else []
  '|' :: hint ++ chomping text ++ '\n' :: indentLines indent true text

/-- A text in single quotes, which double inside. A line break at the end is indented too. -/
def inSingleQuotes (indent : Nat) (text : List Char) : List Char :=
  let doubled := text.flatMap fun c => if c == '\'' then ['\'', '\''] else [c]
  let tail := if text.getLast?.any isBreak then spaces indent else []
  '\'' :: indentLines indent false doubled ++ tail ++ ['\'']

/-- Hexadecimal digits in upper case, at least `width` of them. -/
def upperHex (width code : Nat) : List Char :=
  let digits := (Nat.toDigits 16 code).map Char.toUpper
  List.replicate (width - digits.length) '0' ++ digits

def escaped (c : Char) : List Char :=
  match c with
  | '\x00' => ['\\', '0']
  | '\x07' => ['\\', 'a']
  | '\x08' => ['\\', 'b']
  | '\t' => ['\\', 't']
  | '\n' => ['\\', 'n']
  | '\x0b' => ['\\', 'v']
  | '\x0c' => ['\\', 'f']
  | '\r' => ['\\', 'r']
  | '\x1b' => ['\\', 'e']
  | '"' => ['\\', '"']
  | '\\' => ['\\', '\\']
  | '\u0085' => ['\\', 'N']
  | '\u2028' => ['\\', 'L']
  | '\u2029' => ['\\', 'P']
  | c =>
    if isPrintable c then [c]
    else if c.toNat ≤ 0xFF then '\\' :: 'x' :: upperHex 2 c.toNat
    else if c.toNat ≤ 0xFFFF then '\\' :: 'u' :: upperHex 4 c.toNat
    else '\\' :: 'U' :: upperHex 8 c.toNat

def inDoubleQuotes (text : List Char) : List Char := '"' :: text.flatMap escaped ++ ['"']

/-- A string whose further lines, if any, are indented. It is a block if it has line feeds, and
otherwise as plain as it can be and still read back as this string. -/
def stringText (indent : Nat) (s : String) : List Char :=
  let text := s.toList
  if text.contains '\n' then
    if allowsBlock text then literalBlock indent text else inDoubleQuotes text
  else if !isAmbiguous s && allowsPlain text then text
  else if allowsSingleQuotes text then inSingleQuotes indent text
  else inDoubleQuotes text

def numberText : Json.Number → String
  | .int n => toString n
  | .float x => numberLayout.render x

/-- A line with its end, which a block may have brought along. -/
def endLine (line : List Char) : List Char :=
  if line.getLast?.any isBreak then line else line ++ ['\n']

def isShortKey (key : String) : Bool := key.utf8ByteSize ≤ 128 && !isMultiline key.toList

/-- A value that takes no lines of its own; of lists and objects that is the empty one. -/
def leaf (indent : Nat) : Json → List Char
  | .null => "null".toList
  | .bool b => (toString b).toList
  | .number n => (numberText n).toList
  | .string s => stringText (indent + 2) s
  | .array _ => "[]".toList
  | .object _ => "\x7b\x7d".toList

mutual

/-- A value behind a dash or a mark of its own, where the indentation of its first line stands. -/
def inline (indent : Nat) : Json → List Char
  | .array (item :: rest) => (items (indent + 2) (item :: rest)).drop (indent + 2)
  | .object (field :: rest) => (fields (indent + 2) (field :: rest)).drop (indent + 2)
  | value => endLine (leaf indent value)

def belowKey (indent : Nat) : Json → List Char
  | .array (item :: rest) => '\n' :: items indent (item :: rest)
  | .object (field :: rest) => '\n' :: fields (indent + 2) (field :: rest)
  | value => ' ' :: endLine (leaf indent value)

def items (indent : Nat) : List Json → List Char
  | [] => []
  | item :: rest => spaces indent ++ '-' :: ' ' :: inline indent item ++ items indent rest

/-- The fields of an object: a short key with its value, or a long key in front of its value. -/
def fields (indent : Nat) : List (String × Json) → List Char
  | [] => []
  | (key, value) :: rest =>
    (if isShortKey key then
      spaces indent ++ stringText (indent + 2) key ++ ':' :: belowKey indent value
    else
      spaces indent ++ '?' :: ' ' :: endLine (stringText (indent + 2) key) ++
        spaces indent ++ ':' :: ' ' :: inline indent value) ++
      fields indent rest

end

/-- The text of a document that holds an object. -/
def render (value : Json) : String :=
  match value with
  | .object (field :: rest) => String.ofList (fields 0 (field :: rest))
  | .array (item :: rest) => String.ofList (items 0 (item :: rest))
  | other => String.ofList (endLine (leaf 0 other))

end AgentSpec.Yaml
