import AgentSpec.Yaml.Event

/-! The nodes of a document. -/
namespace AgentSpec.Yaml

/-- A part of a document. Where a text stops being YAML its last open nodes hold a broken node. -/
inductive Node where
  | scalar (tag : Option Tag) (style : Style) (text : String)
  | sequence (tag : Option Tag) (items : List Node)
  | mapping (tag : Option Tag) (entries : List (Node × Node))
  /-- The node whose anchor stands at that place. -/
  | alias (anchor : Nat)
  | broken

/-- A document with its anchored nodes by their places. The root is missing if the text has no
document. -/
structure Document where
  root : Option Node
  anchors : List (Nat × Node)
  aliasLimit : Nat
  /-- Whether the text is YAML up to its end and holds no second document. -/
  sound : Bool

namespace Node

/-- A list or a mapping whose end has not been read; its parts are kept backwards. -/
structure Open where
  isMapping : Bool
  tag : Option Tag
  anchor : Option Nat
  parts : List Node

/-- Keys with their values. A key without a value is broken. -/
def pairs : List Node → List (Node × Node)
  | key :: value :: rest => (key, value) :: pairs rest
  | [key] => [(key, .broken)]
  | [] => []

def Open.close (o : Open) : Node :=
  if o.isMapping then .mapping o.tag (pairs o.parts.reverse) else .sequence o.tag o.parts.reverse

structure Builder where
  openNodes : List Open
  root : Option Node
  anchors : List (Nat × Node)

namespace Builder

/-- Adds a finished node to the innermost open node, or as the root. -/
def add (b : Builder) (anchor : Option Nat) (node : Node) : Builder :=
  let anchors := match anchor with
    | some number => (number, node) :: b.anchors
    | none => b.anchors
  match b.openNodes with
  | [] => { b with root := some node, anchors }
  | o :: outer => { b with openNodes := { o with parts := node :: o.parts } :: outer, anchors }

def close (b : Builder) : Builder :=
  match b.openNodes with
  | [] => b
  | o :: outer => { b with openNodes := outer }.add o.anchor o.close

/-- Puts a broken node where the text breaks off and closes all open nodes. -/
def breakOff (b : Builder) : Builder :=
  match b.openNodes with
  | [] => { b with root := b.root <|> some .broken }
  | _ => (List.range b.openNodes.length).foldl (fun b _ => b.close) (b.add none .broken)

end Builder

def anchorOf : Event → Option String
  | .scalar anchor .. => anchor
  | .sequenceStart anchor _ => anchor
  | .mappingStart anchor _ => anchor
  | .alias _ | .sequenceEnd | .mappingEnd => none

/-- Events up to the first alias whose anchor is unknown, each with the number of the anchor that
it sets or follows, and whether that is all of them. An anchor gets the count of the names seen
before it as its number. -/
def numberAnchors (names : List (String × Nat)) : List Event → List (Event × Option Nat) × Bool
  | [] => ([], true)
  | .alias name :: rest =>
    match names.find? (·.1 == name) with
    | some (_, number) =>
      let (later, known) := numberAnchors names rest
      ((.alias name, some number) :: later, known)
    | none => ([], false)
  | event :: rest =>
    match anchorOf event with
    | some name =>
      let number := names.length
      let (later, known) := numberAnchors ((name, number) :: names.filter (·.1 != name)) rest
      ((event, some number) :: later, known)
    | none =>
      let (later, known) := numberAnchors names rest
      ((event, none) :: later, known)

/-- Events with places instead of numbers: an anchor stands for its own place, and an alias for the
last place whose anchor has its number. -/
def placeAnchors (events : List (Event × Option Nat)) : List (Event × Option Nat) :=
  let anchors := events.zipIdx.filterMap fun ((event, number), place) =>
    match anchorOf event, number with
    | some _, some number => some (number, place)
    | _, _ => none
  let lastPlace (number : Nat) : Option Nat :=
    (anchors.reverse.find? (·.1 == number)).map (·.2)
  events.zipIdx.map fun ((event, number), place) =>
    match event with
    | .alias _ => (event, number.bind lastPlace)
    | _ => (event, number.map fun _ => place)

def Builder.apply (b : Builder) : Event × Option Nat → Builder
  | (.scalar _ tag style text, anchor) => b.add anchor (.scalar tag style text)
  | (.alias _, number) => b.add none (.alias (number.getD 0))
  | (.sequenceStart _ tag, anchor) =>
    { b with openNodes := ⟨false, tag, anchor, []⟩ :: b.openNodes }
  | (.mappingStart _ tag, anchor) =>
    { b with openNodes := ⟨true, tag, anchor, []⟩ :: b.openNodes }
  | (.sequenceEnd, _) => b.close
  | (.mappingEnd, _) => b.close

end Node

namespace Document

def ofText (text : String) : Document :=
  let (events, rest) := Event.firstDocument (Token.ofText text)
  let (numbered, known) := Node.numberAnchors [] events.toList
  let built := (Node.placeAnchors numbered).foldl Node.Builder.apply ⟨[], none, []⟩
  let complete := known && rest.isSome
  let built := if complete then built else built.breakOff
  { root := built.root
    anchors := built.anchors
    aliasLimit := 100 * numbered.length
    sound := complete && rest.any Event.endsText }

end Document

end AgentSpec.Yaml
