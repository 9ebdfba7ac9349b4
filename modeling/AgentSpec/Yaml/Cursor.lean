import AgentSpec.Yaml.Character

/-! A position in a text, with the number of octets, lines and columns before it. -/
namespace AgentSpec.Yaml

def octetSize (chars : List Char) : Nat := chars.foldl (fun size c => size + c.utf8Size) 0

/-- The number of octets that are taken in at once. -/
def pieceSize : Nat := 16384

/-- The number of octets in front of the piece in which the first character stands that is not
allowed, if there is one. A piece holds whole characters, as many as fit. -/
def readableOctets? (text : List Char) : Option Nat := go 0 0 text
where
  /-- The same from an octet on, with the octet at which its piece starts. -/
  go (piece index : Nat) : List Char → Option Nat
    | [] => none
    | c :: rest =>
      let next := index + c.utf8Size
      let piece := if piece + pieceSize < next then index else piece
      if isAllowed c then go piece next rest else some piece

structure Cursor where
  rest : List Char
  index : Nat
  line : Nat
  column : Nat
  /-- The number of characters of the whole text, which bounds every search in it. -/
  size : Nat

namespace Cursor

def start (text : List Char) : Cursor := ⟨text, 0, 0, 0, text.length⟩

def skip (c : Cursor) (count : Nat) : Cursor :=
  { c with
    rest := c.rest.drop count
    index := c.index + octetSize (c.rest.take count)
    column := c.column + count }

/-- The characters of a class from here on, and the position after them. -/
def takeWhile (c : Cursor) (p : Char → Bool) : List Char × Cursor :=
  let taken := c.rest.takeWhile p
  (taken, c.skip taken.length)

def skipWhile (c : Cursor) (p : Char → Bool) : Cursor := (c.takeWhile p).2

/-- A position at the start of the next line, some octets on. -/
def wrap (c : Cursor) (rest : List Char) (octets : Nat) : Cursor :=
  { c with rest, index := c.index + octets, line := c.line + 1, column := 0 }

/-- A line break in its normal form, and the position after it. Two breaks beyond ASCII are kept;
all others, also carriage return and line feed together, become a line feed. -/
def readBreak (c : Cursor) : List Char × Cursor :=
  match c.rest with
  | '\r' :: '\n' :: rest => (['\n'], c.wrap rest 2)
  | b :: rest =>
    if b == '\u2028' || b == '\u2029' then ([b], c.wrap rest b.utf8Size)
    else if isBreak b then (['\n'], c.wrap rest b.utf8Size)
    else ([], c)
  | [] => ([], c)

def skipBreak (c : Cursor) : Cursor := c.readBreak.2

def atMarker (c : Cursor) : Bool :=
  c.column == 0 && (startsMarker '-' c.rest || startsMarker '.' c.rest)

def startsWith (c : Cursor) (char : Char) : Bool := c.rest.head? == some char

def skipComment (c : Cursor) : Cursor :=
  if c.rest.head? == some '#' then c.skipWhile (!isBreak ·) else c

/-- The end of a line after blanks and a comment, and the position after it. -/
def endOfLine? (c : Cursor) : Option Cursor :=
  let c := (c.skipWhile isBlank).skipComment
  if atBreak c.rest then some c.skipBreak else none

end Cursor

end AgentSpec.Yaml
