import AgentSpec.Yaml.Block
import AgentSpec.Yaml.Plain
import AgentSpec.Yaml.Property
import AgentSpec.Yaml.Token

/-!
Tokens of a text. A scalar or a flow collection may turn out to be a key only when a colon follows
on its line; until then it is a candidate, and the token that marks a key is put in front of it
later. The tokens from the first candidate on are not handed out, so an error behind a candidate
takes it along.
-/
namespace AgentSpec.Yaml

/-- A token that may turn out to start a key. -/
structure KeyCandidate where
  /-- Whether the text is wrong if it is no key. -/
  required : Bool
  /-- The number of flow collections around it. -/
  level : Nat
  position : Nat
  index : Nat
  line : Nat
  column : Nat

/-- Whether a position lies behind the line of a candidate, or more than 1024 octets on. -/
def KeyCandidate.isPast (key : KeyCandidate) (cursor : Cursor) : Bool :=
  key.line < cursor.line || key.index + 1024 < cursor.index

structure Lexer where
  cursor : Cursor
  /-- The number of octets that can be read, unless all can. -/
  readable? : Option Nat
  released : Nat
  pending : Array Token
  /-- The column of the innermost block level, `-1` outside all of them. -/
  indent : Int
  outerIndents : List Int
  flowLevel : Nat
  /-- The candidates, innermost first, with at most one at each level of flow collections. -/
  candidates : List KeyCandidate
  keyAllowed : Bool

namespace Lexer

def start (text : List Char) : Lexer :=
  ⟨.start text, readableOctets? text, 0, #[], -1, [], 0, [], true⟩

/-- Whether this many characters from here on can be read. -/
def canRead (l : Lexer) (count : Nat) : Bool :=
  l.readable?.all (l.cursor.index + octetSize (l.cursor.rest.take count) ≤ ·)

def inFlow (l : Lexer) : Bool := l.flowLevel != 0

/-- The candidate at this level of flow collections. -/
def candidate? (l : Lexer) : Option KeyCandidate :=
  l.candidates.head?.filter (·.level == l.flowLevel)

def count (l : Lexer) : Nat := l.released + l.pending.size

def push (l : Lexer) (token : Token) : Lexer := { l with pending := l.pending.push token }

/-- Adds a token behind some others, not all of which may have been handed out before. -/
def insert (l : Lexer) (position : Nat) (token : Token) : Lexer :=
  { l with pending := l.pending.insertIdxIfInBounds (position - l.released) token }

/-- Passes over white space, comments and line breaks in front of a token. A byte order mark may
start a line; it takes up a column. -/
def skipSpace : Nat → Lexer → Lexer
  | 0, l => l
  | fuel + 1, l =>
    let c := if l.cursor.column == 0 && l.cursor.startsWith '\uFEFF' then l.cursor.skip 1
      else l.cursor
    let tabs := l.inFlow || !l.keyAllowed
    let c := (c.skipWhile fun char => char == ' ' || (tabs && char == '\t')).skipComment
    if c.rest.head?.any isBreak then
      skipSpace fuel { l with cursor := c.skipBreak, keyAllowed := l.keyAllowed || !l.inFlow }
    else { l with cursor := c }

/-- Drops the candidates that can be keys no more; none of them may be required. -/
def expireAll (l : Lexer) : Option Lexer :=
  if l.candidates.any fun key => key.required && key.isPast l.cursor then none
  else some { l with candidates := l.candidates.filter fun key => !key.isPast l.cursor }

/-- Drops the candidate at this level, unless it is required. -/
def dropCandidate (l : Lexer) : Option Lexer :=
  match l.candidate? with
  | some key => if key.required then none else some { l with candidates := l.candidates.drop 1 }
  | none => some l

/-- Makes the next token a candidate, if a key may start here. -/
def offerKey (l : Lexer) : Option Lexer :=
  if l.keyAllowed then do
    let l ← l.dropCandidate
    let c := l.cursor
    let required := !l.inFlow && l.indent == (c.column : Int)
    let key := ⟨required, l.flowLevel, l.count, c.index, c.line, c.column⟩
    pure { l with candidates := key :: l.candidates }
  else some l

/-- Opens a block level at a column, unless that level is open. -/
def openBlock (l : Lexer) (column position : Nat) (token : Token) : Lexer :=
  if l.inFlow || (column : Int) ≤ l.indent then l
  else
    { l.insert position token with indent := column, outerIndents := l.indent :: l.outerIndents }

/-- The number of block levels beyond a column, and the levels that are left. -/
def levelsBeyond (column : Int) : Int → List Int → Nat × Int × List Int
  | indent, outer =>
    if indent ≤ column then (0, indent, outer)
    else
      match outer with
      | next :: outer =>
        let (count, left) := levelsBeyond column next outer
        (count + 1, left)
      | [] => (1, -1, [])

def closeBlocks (l : Lexer) (column : Int) : Lexer :=
  if l.inFlow then l
  else
    let (count, indent, outerIndents) := levelsBeyond column l.indent l.outerIndents
    { l with pending := l.pending ++ List.replicate count Token.blockEnd, indent, outerIndents }

/-- A token of some characters after which a key may or may not start. -/
def mark (l : Lexer) (token : Token) (count : Nat) (keyAllowed : Bool) : Lexer :=
  { l.push token with cursor := l.cursor.skip count, keyAllowed }

/-- Closes all blocks in front of a directive or a document marker. -/
def leaveDocument (l : Lexer) : Option Lexer := do
  let l ← (l.closeBlocks (-1)).dropCandidate
  pure { l with keyAllowed := false }

def fetchEnd (l : Lexer) : Option Lexer := do
  let c := l.cursor
  let c := if c.column == 0 then c else c.wrap c.rest 0
  let l ← { l with cursor := c }.leaveDocument
  pure (l.push .streamEnd)

def fetchDirective (l : Lexer) : Option Lexer := do
  let l ← l.leaveDocument
  let (name, c) := (l.cursor.skip 1).takeWhile isWordChar
  if name.isEmpty || !atSpace c.rest then none
  else if name == "YAML".toList then
    let (major, minor, c) ← versionValue? c
    let c ← c.endOfLine?
    pure { l.push (.version major minor) with cursor := c }
  else if name == "TAG".toList then
    let (handle, lead, c) ← tagDirectiveValue? c
    let c ← c.endOfLine?
    pure { l.push (.tagDirective handle lead) with cursor := c }
  else none

def fetchMarker (l : Lexer) (token : Token) : Option Lexer := do
  let l ← l.leaveDocument
  pure (l.mark token 3 false)

def fetchFlowStart (l : Lexer) (token : Token) : Option Lexer := do
  let l ← l.offerKey
  pure { l.mark token 1 true with flowLevel := l.flowLevel + 1 }

def fetchFlowEnd (l : Lexer) (token : Token) : Option Lexer := do
  let l ← l.dropCandidate
  pure { l.mark token 1 false with flowLevel := l.flowLevel - 1 }

def fetchFlowEntry (l : Lexer) : Option Lexer := do
  let l ← l.dropCandidate
  pure (l.mark .flowEntry 1 true)

def fetchBlockEntry (l : Lexer) : Option Lexer := do
  if !l.inFlow && !l.keyAllowed then none
  let l ← (l.openBlock l.cursor.column l.count .blockSequenceStart).dropCandidate
  pure (l.mark .blockEntry 1 true)

def fetchKey (l : Lexer) : Option Lexer := do
  if !l.inFlow && !l.keyAllowed then none
  let l ← (l.openBlock l.cursor.column l.count .blockMappingStart).dropCandidate
  pure (l.mark .key 1 (!l.inFlow))

def fetchValue (l : Lexer) : Option Lexer :=
  match l.candidate? with
  | some key =>
    let l := { l.insert key.position .key with candidates := l.candidates.drop 1 }
    some ((l.openBlock key.column key.position .blockMappingStart).mark .value 1 false)
  | none =>
    if l.inFlow then some (l.mark .value 1 false)
    else if l.keyAllowed then
      some ((l.openBlock l.cursor.column l.count .blockMappingStart).mark .value 1 true)
    else none

def fetchAnchor (l : Lexer) (token : String → Token) : Option Lexer := do
  let l ← l.offerKey
  let (name, c) ← anchorName? l.cursor
  pure { l.push (token name) with cursor := c, keyAllowed := false }

def fetchTag (l : Lexer) : Option Lexer := do
  let l ← l.offerKey
  let (handle, suffix, c) ← wholeTag? l.inFlow l.cursor
  pure { l.push (.tag handle suffix) with cursor := c, keyAllowed := false }

def fetchBlockScalar (l : Lexer) (style : Style) : Option Lexer := do
  let l ← l.dropCandidate
  let (text, c) ← block? (style == .folded) l.indent l.cursor
  pure { l.push (.scalar style text) with cursor := c, keyAllowed := true }

def fetchQuoted (l : Lexer) (style : Style) : Option Lexer := do
  let l ← l.offerKey
  let (text, c) ← quoted? (style == .doubleQuoted) l.cursor
  pure { l.push (.scalar style text) with cursor := c, keyAllowed := false }

def fetchPlain (l : Lexer) : Option Lexer := do
  let l ← l.offerKey
  let (text, wrapped, c) ← plain? l.inFlow (l.indent + 1).toNat l.cursor
  pure { l.push (.scalar .plain text) with cursor := c, keyAllowed := wrapped }

/-- Whether a plain scalar starts with this character in front of this text. -/
def startsPlain (flow : Bool) (char : Char) (rest : List Char) : Bool :=
  if char == '-' then !rest.head?.any isBlank
  else if char == '?' || char == ':' then !flow && !atSpace rest
  else !(isBlank char || isBreak char || ",[]\x7b\x7d#&*!|>'\"%@`".toList.contains char)

/-- Reads the token that stands here; white space in front of it has been passed over. -/
def fetchToken (l : Lexer) : Option Lexer :=
  match l.cursor.rest with
  | [] => l.fetchEnd
  | char :: rest =>
    if l.cursor.column == 0 && char == '%' then l.fetchDirective
    else if l.cursor.column == 0 && startsMarker '-' (char :: rest) then
      l.fetchMarker .documentStart
    else if l.cursor.column == 0 && startsMarker '.' (char :: rest) then l.fetchMarker .documentEnd
    else if char == '[' then l.fetchFlowStart .flowSequenceStart
    else if char == '\x7b' then l.fetchFlowStart .flowMappingStart
    else if char == ']' then l.fetchFlowEnd .flowSequenceEnd
    else if char == '\x7d' then l.fetchFlowEnd .flowMappingEnd
    else if char == ',' then l.fetchFlowEntry
    else if char == '-' && atSpace rest then l.fetchBlockEntry
    else if char == '?' && (l.inFlow || atSpace rest) then l.fetchKey
    else if char == ':' && (l.inFlow || atSpace rest) then l.fetchValue
    else if char == '*' then l.fetchAnchor .alias
    else if char == '&' then l.fetchAnchor .anchor
    else if char == '!' then l.fetchTag
    else if char == '|' && !l.inFlow then l.fetchBlockScalar .literal
    else if char == '>' && !l.inFlow then l.fetchBlockScalar .folded
    else if char == '\'' then l.fetchQuoted .singleQuoted
    else if char == '"' then l.fetchQuoted .doubleQuoted
    else if startsPlain l.inFlow char rest then l.fetchPlain
    else none

/-- The tokens in front of the first candidate, which are handed out. -/
def release (l : Lexer) : Array Token × Lexer :=
  let released := (l.candidates.map (·.position)).foldl min l.count
  let size := released - l.released
  (l.pending.extract 0 size, { l with released, pending := l.pending.extract size })

/-- Reads the next token. Four characters at its start and one behind it have to be readable. -/
def fetch (l : Lexer) : Option Lexer := do
  let l := l.skipSpace (l.cursor.size + 1)
  if !l.canRead 4 then none
  let l ← l.expireAll
  let l ← (l.closeBlocks l.cursor.column).fetchToken
  if !l.canRead 1 then none
  l.expireAll

/-- Reads tokens up to the end of the text, or up to an error; `done` are those before. -/
def run : Nat → Array Token → Lexer → List Token
  | 0, done, _ => done.toList
  | fuel + 1, done, l =>
    match l.fetch with
    | none => done.toList
    | some l =>
      if l.pending.back? == some .streamEnd then (done ++ l.pending).toList
      else
        let (tokens, l) := l.release
        run fuel (done ++ tokens) l

end Lexer

/-- The tokens of a text; after an error in the text there is no token for its end. -/
def Token.ofText (text : String) : List Token :=
  let chars := text.toList
  (Lexer.start chars).run (chars.length + 1) #[]

end AgentSpec.Yaml
