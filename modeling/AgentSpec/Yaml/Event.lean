import AgentSpec.Yaml.Lexer

/-!
Events: the scalars, aliases and brackets of a document in the order of the text. They are read
from tokens by a machine that keeps a stack of what it expects. Where the tokens are no document
the events end.
-/
namespace AgentSpec.Yaml

inductive Event where
  | scalar (anchor : Option String) (tag : Option Tag) (style : Style) (text : String)
  | alias (name : String)
  | sequenceStart (anchor : Option String) (tag : Option Tag)
  | sequenceEnd
  | mappingStart (anchor : Option String) (tag : Option Tag)
  | mappingEnd
deriving DecidableEq

namespace Event

def empty : Event := .scalar none none .plain ""

inductive Expected where
  | blockItem (first : Bool)
  | indentlessItem
  | blockKey (first : Bool)
  | blockValue
  | flowItem (first : Bool)
  | pairKey
  | pairValue
  | pairEnd
  | flowKey (first : Bool)
  | flowValue
  | flowNoValue

abbrev TagHandles := List (String × List UInt8)

/-- The tag that a handle and a suffix stand for, if the handle is declared. -/
def resolveTag (handles : TagHandles) (handle : String) (suffix : List UInt8) : Option Tag :=
  if handle.isEmpty then some ⟨suffix⟩
  else
    match handles.find? (·.1 == handle) with
    | some (_, lead) => some ⟨lead ++ suffix⟩
    | none => none

/-- What a step of the machine yields: an event, what is expected now, and the tokens left. -/
abbrev Step := Event × List Expected × List Token

/-- The anchor and the tag in front of a node, in either order. -/
def properties (handles : TagHandles) : List Token →
    Option (Option String × Option Tag × List Token)
  | .anchor name :: .tag handle suffix :: rest | .tag handle suffix :: .anchor name :: rest => do
    let tag ← resolveTag handles handle suffix
    pure (some name, some tag, rest)
  | .anchor name :: rest => some (some name, none, rest)
  | .tag handle suffix :: rest => do
    let tag ← resolveTag handles handle suffix
    pure (none, some tag, rest)
  | tokens => some (none, none, tokens)

/-- The start of a node. In a block a list may stand at the level of its key. -/
def node (handles : TagHandles) (block indentless : Bool) (stack : List Expected)
    (tokens : List Token) : Option Step :=
  match tokens with
  | .alias name :: rest => some (.alias name, stack, rest)
  | _ => do
    let (anchor, tag, tokens) ← properties handles tokens
    match tokens with
    | [] => none
    | token :: rest =>
      if indentless && token == .blockEntry then
        pure (.sequenceStart anchor tag, .indentlessItem :: stack, tokens)
      else
        match token with
        | .scalar style text =>
          pure (.scalar anchor tag style text, stack, rest)
        | .flowSequenceStart => pure (.sequenceStart anchor tag, .flowItem true :: stack, rest)
        | .flowMappingStart => pure (.mappingStart anchor tag, .flowKey true :: stack, rest)
        | .blockSequenceStart =>
          if block then pure (.sequenceStart anchor tag, .blockItem true :: stack, rest)
          else emptyNode anchor tag tokens
        | .blockMappingStart =>
          if block then pure (.mappingStart anchor tag, .blockKey true :: stack, rest)
          else emptyNode anchor tag tokens
        | _ => emptyNode anchor tag tokens
where
  /-- An empty scalar, which needs an anchor or a tag to stand for a node. -/
  emptyNode (anchor : Option String) (tag : Option Tag) (tokens : List Token) : Option Step :=
    if anchor.isSome || tag.isSome then some (.scalar anchor tag .plain "", stack, tokens)
    else none

/-- A node, or an empty scalar if one of some tokens comes instead. -/
def nodeUnless (handles : TagHandles) (block indentless : Bool) (stops : List Token)
    (stack : List Expected) : List Token → Option Step
  | [] => none
  | token :: rest =>
    if stops.contains token then some (empty, stack, token :: rest)
    else node handles block indentless stack (token :: rest)

def step (handles : TagHandles) (expected : Expected) (stack : List Expected)
    (tokens : List Token) : Option Step :=
  match expected, tokens with
  | _, [] => none
  | .blockItem _, .blockEntry :: rest =>
    nodeUnless handles true false [.blockEntry, .blockEnd] (.blockItem false :: stack) rest
  | .blockItem _, .blockEnd :: rest => some (.sequenceEnd, stack, rest)
  | .blockItem _, _ => none
  | .indentlessItem, .blockEntry :: rest =>
    nodeUnless handles true false [.blockEntry, .key, .value, .blockEnd]
      (.indentlessItem :: stack) rest
  | .indentlessItem, tokens => some (.sequenceEnd, stack, tokens)
  | .blockKey _, .key :: rest =>
    nodeUnless handles true true [.key, .value, .blockEnd] (.blockValue :: stack) rest
  | .blockKey _, .blockEnd :: rest => some (.mappingEnd, stack, rest)
  | .blockKey _, _ => none
  | .blockValue, .value :: rest =>
    nodeUnless handles true true [.key, .value, .blockEnd] (.blockKey false :: stack) rest
  | .blockValue, tokens => some (empty, .blockKey false :: stack, tokens)
  | .flowItem _, .flowSequenceEnd :: rest => some (.sequenceEnd, stack, rest)
  | .flowItem true, tokens => flowItem tokens
  | .flowItem false, .flowEntry :: rest => flowItem rest
  | .flowItem false, _ => none
  | .pairKey, token :: rest =>
    if token == .value || token == .flowEntry || token == .flowSequenceEnd then
      some (empty, .pairValue :: stack, rest)
    else node handles false false (.pairValue :: stack) (token :: rest)
  | .pairValue, .value :: rest =>
    nodeUnless handles false false [.flowEntry, .flowSequenceEnd] (.pairEnd :: stack) rest
  | .pairValue, tokens => some (empty, .pairEnd :: stack, tokens)
  | .pairEnd, tokens => some (.mappingEnd, .flowItem false :: stack, tokens)
  | .flowKey _, .flowMappingEnd :: rest => some (.mappingEnd, stack, rest)
  | .flowKey true, tokens => flowKey tokens
  | .flowKey false, .flowEntry :: rest => flowKey rest
  | .flowKey false, _ => none
  | .flowValue, .value :: rest =>
    nodeUnless handles false false [.flowEntry, .flowMappingEnd] (.flowKey false :: stack) rest
  | .flowValue, tokens => some (empty, .flowKey false :: stack, tokens)
  | .flowNoValue, tokens => some (empty, .flowKey false :: stack, tokens)
where
  /-- An item of a flow list: its end, a pair that stands for a mapping, or a node. -/
  flowItem : List Token → Option Step
    | [] => none
    | .flowSequenceEnd :: rest => some (.sequenceEnd, stack, rest)
    | .key :: rest => some (.mappingStart none none, .pairKey :: stack, rest)
    | tokens => node handles false false (.flowItem false :: stack) tokens
  /-- A key of a flow mapping: its end, a marked key, or a node without a value. -/
  flowKey : List Token → Option Step
    | [] => none
    | .flowMappingEnd :: rest => some (.mappingEnd, stack, rest)
    | .key :: rest =>
      nodeUnless handles false false [.value, .flowEntry, .flowMappingEnd]
        (.flowValue :: stack) rest
    | tokens => node handles false false (.flowNoValue :: stack) tokens

/-- Steps until nothing is expected any more. The rest of the tokens is missing if they are no
document. -/
def steps (handles : TagHandles) : Nat → Array Event → List Expected → List Token →
    Array Event × Option (List Token)
  | 0, events, _, _ => (events, none)
  | _ + 1, events, [], tokens => (events, some tokens)
  | fuel + 1, events, expected :: stack, tokens =>
    match step handles expected stack tokens with
    | none => (events, none)
    | some (event, stack, tokens) => steps handles fuel (events.push event) stack tokens

/-- The handles that need no declaration: one for local tags, one for the tags of the standard. -/
def standardHandles : TagHandles :=
  [("!", Tag.octetsOf "!"), ("!!", (Tag.standard "").octets)]

/-- The directives in front of a document: whether a version was among them, the handles that they
declare, and the tokens after them. -/
def directives : Bool → TagHandles → List Token → Option (TagHandles × List Token)
  | versioned, handles, .version major minor :: rest =>
    if versioned || major != 1 || (minor != 1 && minor != 2) then none
    else directives true handles rest
  | versioned, handles, .tagDirective handle lead :: rest =>
    if handles.any (·.1 == handle) then none
    else directives versioned (handles ++ [(handle, lead)]) rest
  | _, handles, tokens => some (handles ++ standardHandles, tokens)

/-- The events of the root node of a document, and the tokens after it. -/
def root (handles : TagHandles) (explicit : Bool) (tokens : List Token) :
    Array Event × Option (List Token) :=
  let fuel := 8 * tokens.length + 8
  let content (tokens : List Token) : Array Event × Option (List Token) :=
    match node handles true false [] tokens with
    | none => (#[], none)
    | some (event, stack, tokens) => steps handles fuel #[event] stack tokens
  match tokens with
  | .version _ _ :: _ | .tagDirective _ _ :: _ | .documentStart :: _ | .documentEnd :: _
  | .streamEnd :: _ => if explicit then (#[empty], some tokens) else content tokens
  | tokens => content tokens

/-- The events of the first document of a text, and the tokens after it. A text without a document
has no events. -/
def firstDocument (tokens : List Token) : Array Event × Option (List Token) :=
  match tokens with
  | [] => (#[], none)
  | [.streamEnd] => (#[], some [.streamEnd])
  | .version _ _ :: _ | .tagDirective _ _ :: _ | .documentStart :: _ =>
    match directives false [] tokens with
    | some (handles, .documentStart :: rest) => root handles true rest
    | _ => (#[], none)
  | tokens =>
    match directives false [] [] with
    | some (handles, _) => root handles false tokens
    | none => (#[], none)

/-- Whether nothing but ends of documents comes before the end of the text. -/
def endsText : List Token → Bool
  | .documentEnd :: rest => endsText rest
  | [.streamEnd] => true
  | _ => false

end Event

end AgentSpec.Yaml
