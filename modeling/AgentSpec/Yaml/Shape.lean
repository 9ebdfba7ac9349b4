import AgentSpec.Yaml.Node
import AgentSpec.Yaml.Problem
import AgentSpec.Yaml.Resolution

/-!
Reading nodes as values of a wanted shape. Aliases are followed on the way. Their number is limited,
and so is the depth to which lists and mappings are entered.
-/
namespace AgentSpec.Yaml

structure Scope where
  document : Document
  place : Place
  /-- How many levels of lists and mappings may still be entered. -/
  depth : Nat

/-- A result that depends on the number of aliases followed so far. -/
abbrev Reading (α : Type) := StateT Nat (Except Failure) α

abbrev Shape (α : Type) := Scope → Node → Reading α

namespace Scope

def field (scope : Scope) (name : String) : Scope :=
  { scope with place := scope.place.field name }

def item (scope : Scope) (index : Nat) : Scope := { scope with place := scope.place.item index }

def report (scope : Scope) (problem : Problem) : Reading α :=
  throw (.misshapen scope.place problem)

/-- Reports a problem that only shows at the list or mapping around this place. -/
def reportOutside (scope : Scope) (problem : Problem) : Reading α :=
  throw (.misshapen scope.place.dropLast problem)

def enter (scope : Scope) : Reading Scope :=
  match scope.depth with
  | 0 => throw .unreadable
  | depth + 1 => pure { scope with depth }

/-- The node itself, or the node that an alias stands for. -/
def resolve (scope : Scope) : Node → Reading Node
  | .alias anchor => do
    let followed ← get
    if followed < scope.document.aliasLimit then
      set (followed + 1)
      match scope.document.anchors.lookup anchor with
      | some node => pure node
      | none => throw .unreadable
    else throw .unreadable
  | node => pure node

end Scope

def Scope.unexpected (scope : Scope) (node : Node) (wanted : String) : Reading α :=
  match node with
  | .scalar tag style text =>
    match scalarMeaning tag style text with
    | .ok meaning => scope.report (.unexpected (.scalar meaning text) wanted)
    | .error type => scope.report (.unfit text type.wanted)
  | .sequence .. => scope.report (.unexpected .sequence wanted)
  | .mapping .. => scope.report (.unexpected .mapping wanted)
  | .alias _ | .broken => throw .unreadable

namespace Shape

/-- The text of a scalar, whatever it stands for. -/
def textAs (wanted : String) : Shape String := fun scope node => do
  match ← scope.resolve node with
  | .scalar _ _ text => pure text
  | node => scope.unexpected node wanted

def text : Shape String := textAs "a string"

/-- A truth value, which is plain or has the tag for it. -/
def bool : Shape Bool := fun scope node => do
  match ← scope.resolve node with
  | .scalar tag style text =>
    let candidate := style == .plain || (style == .literal && tag == some (.standard "bool"))
    match bool? text with
    | some value =>
      if candidate then pure value else scope.unexpected (.scalar tag style text) "a boolean"
    | none => scope.unexpected (.scalar tag style text) "a boolean"
  | node => scope.unexpected node "a boolean"

/-- A value that is unset where null stands. -/
def optional (shape : Shape α) : Shape (Option α) := fun scope node => do
  let node ← scope.resolve node
  match node with
  | .scalar tag .plain text =>
    if StandardType.ofTag? tag == some .null then
      if isNull text then pure none else scope.reportOutside (.unfit text StandardType.null.wanted)
    else if tag.isNone && (text.isEmpty || isNull text) then pure none
    else some <$> shape scope node
  | .broken => throw .unreadable
  | node => some <$> shape scope node

/-- A list, which is empty where nothing stands. -/
def list (shape : Shape α) : Shape (List α) := fun scope node => do
  match ← scope.resolve node with
  | .sequence _ items =>
    let inner ← scope.enter
    items.zipIdx.mapM fun (item, index) => shape (inner.item index) item
  | .scalar _ .plain "" => pure []
  | node => scope.unexpected node "a sequence"

/-- One of some values by its name. The name is a text or a local tag with nothing behind it. -/
def choice (options : List (String × α)) : Shape α := fun scope node => do
  let node ← scope.resolve node
  let tag := match node with
    | .scalar tag .. | .sequence tag _ | .mapping tag _ => tag.bind (·.localName?)
    | .alias _ | .broken => none
  match tag, node with
  | some name, node =>
    match options.lookup name with
    | none => scope.reportOutside (.unknownVariant name (options.map (·.1)))
    | some value =>
      match node with
      | .scalar _ style text =>
        if style == .plain && (text.isEmpty || isNull text) then pure value
        else scope.report (.unfit text StandardType.null.wanted)
      | node => scope.unexpected node "unit"
  | none, .scalar _ _ name =>
    match options.lookup name with
    | none => scope.report (.unknownVariant name (options.map (·.1)))
    | some value => pure value
  | none, node => scope.unexpected node "a YAML tag starting with '!'"

/-- The step to the value of a key. A key that is an alias has no name there. -/
def keyStep (key : Node) (name : String) : String :=
  match key with
  | .alias _ => "?"
  | _ => name

/-- The JSON value of a scalar. Numbers that are not finite become null. -/
def scalarJson (scope : Scope) (tag : Option Tag) (style : Style) (text : String) :
    Reading Json :=
  match scalarMeaning tag style text with
  | .error type => scope.report (.unfit text type.wanted)
  | .ok .null | .ok (.infinity _) | .ok .nan => pure .null
  | .ok (.bool value) => pure (.bool value)
  | .ok (.int n) => pure (.number (.int n))
  | .ok (.float x) => pure (.number (.float x))
  | .ok .text => pure (.string text)
  | .ok (.wide _) => throw .unreadable

/-- A JSON value whose own parts are read by `part`. Of equal keys the last one counts. -/
def jsonOf (part : Shape Json) : Shape Json := fun scope node => do
  let wanted := "any valid JSON value"
  match ← scope.resolve node with
  | .scalar tag style text =>
    if (tag.bind (·.localName?)).isSome then scope.report (.unexpected .tagged wanted)
    else scalarJson scope tag style text
  | .sequence tag items =>
    if (tag.bind (·.localName?)).isSome then scope.report (.unexpected .tagged wanted)
    else
      let inner ← scope.enter
      let items ← items.zipIdx.mapM fun (item, index) => part (inner.item index) item
      pure (.array items)
  | .mapping tag entries =>
    if (tag.bind (·.localName?)).isSome then scope.report (.unexpected .tagged wanted)
    else
      let inner ← scope.enter
      let fields ← entries.zipIdx.mapM fun ((key, value), index) => do
        let name ← textAs (if index = 0 then "a string key" else "a string") inner key
        let value ← part (inner.field (keyStep key name)) value
        pure (name, value)
      pure (.object (Json.sortFields fields))
  | .alias _ | .broken => throw .unreadable

def jsonWithin : Nat → Shape Json
  | 0 => jsonOf fun _ _ => throw .unreadable
  | depth + 1 => jsonOf (jsonWithin depth)

def json : Shape Json := fun scope node => jsonWithin scope.depth scope node

/-- A field of a record: how its value changes the record. -/
structure Field (σ : Type) where
  name : String
  read : Scope → Node → σ → Reading σ

/-- A field whose value is read by a shape and then put into the record. -/
def Field.of (name : String) (shape : Shape α) (put : α → σ → σ) : Field σ :=
  ⟨name, fun scope node record => (put · record) <$> shape scope node⟩

def readFields (fields : List (Field σ)) (scope : Scope) :
    List String → List (Node × Node) → σ → Reading σ
  | _, [], record => pure record
  | seen, (key, value) :: rest, record => do
    let name ← textAs "field identifier" scope key
    match fields.find? (·.name == name) with
    | none => scope.report (.unknownField name (fields.map (·.name)))
    | some field =>
      if seen.contains name then scope.report (.duplicateField name)
      else
        let record ← field.read (scope.field (keyStep key name)) value record
        readFields fields scope (name :: seen) rest record

/-- A record, in which every field may be left out; where nothing stands all are. -/
def record (name : String) (fields : List (Field σ)) (blank : σ) : Shape σ := fun scope node => do
  match ← scope.resolve node with
  | .mapping _ entries =>
    let inner ← scope.enter
    readFields fields inner [] entries blank
  | .scalar _ .plain "" => pure blank
  | node => scope.unexpected node ("struct " ++ name)

end Shape

namespace Document

/-- How many levels of lists and mappings a document may have. -/
def depthLimit : Nat := 128

/-- The value that a text holds. A wrong shape counts before a fault of the text behind it. -/
def read (shape : Shape α) (document : Document) : Except Failure α := do
  let root := document.root.getD (.scalar none .plain "")
  let (value, _) ← (shape ⟨document, [], depthLimit⟩ root).run 0
  if document.sound then pure value else throw .unreadable

end Document

end AgentSpec.Yaml
