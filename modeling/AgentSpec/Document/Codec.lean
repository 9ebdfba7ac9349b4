import AgentSpec.Definition.Schema
import AgentSpec.Yaml.Shape

/-!
How values stand in a document: what is written for them and how that is read. What reading assumes
of a missing field is not written.
-/
namespace AgentSpec

structure Codec (α : Type) where
  write : α → Json
  read : Yaml.Shape α

namespace Codec

def text : Codec String := ⟨.string, Yaml.Shape.text⟩

def list (codec : Codec α) : Codec (List α) :=
  ⟨fun values => .array (values.map codec.write), Yaml.Shape.list codec.read⟩

/-- One of finitely many values, which stands there by its name. -/
def choice (name : α → String) (all : List α) : Codec α :=
  ⟨fun value => .string (name value), Yaml.Shape.choice (all.map fun value => (name value, value))⟩

/-- Any JSON value, null included. -/
def schema : Codec Schema :=
  ⟨Schema.value, fun scope node => Schema.ofJson <$> Yaml.Shape.json scope node⟩

/-- A field of records: what is written for it, if anything, and how reading it changes a record. -/
structure Field (σ : Type) where
  write : σ → Option Json
  reading : Yaml.Shape.Field σ

namespace Field

/-- A field that is always written. -/
def always (name : String) (codec : Codec α) (get : σ → α) (put : α → σ → σ) : Field σ :=
  ⟨fun record => some (codec.write (get record)), .of name codec.read put⟩

/-- A field that is unset where null stands. -/
def optional (name : String) (codec : Codec α) (get : σ → Option α) (put : Option α → σ → σ) :
    Field σ :=
  ⟨fun record => (get record).map codec.write, .of name (Yaml.Shape.optional codec.read) put⟩

/-- A field that null sets like any other value. -/
def present (name : String) (codec : Codec α) (get : σ → Option α) (put : Option α → σ → σ) :
    Field σ :=
  ⟨fun record => (get record).map codec.write, .of name codec.read fun value => put (some value)⟩

/-- A field with a list, which is not written if it is empty. -/
def many (name : String) (codec : Codec α) (get : σ → List α) (put : List α → σ → σ) : Field σ :=
  ⟨fun record => if (get record).isEmpty then none else some (codec.list.write (get record)),
   .of name codec.list.read put⟩

def entry (field : Field σ) (record : σ) : Option (String × Json) :=
  (field.write record).map fun value => (field.reading.name, value)

end Field

/-- A record with fields in a fixed order. All fields of the blank record may be left out. -/
def record (name : String) (fields : List (Field σ)) (blank : σ) : Codec σ :=
  ⟨fun record => .object (fields.filterMap (·.entry record)),
   Yaml.Shape.record name (fields.map (·.reading)) blank⟩

end Codec

def Text.nonempty? (text : String) : Option String := if text.isEmpty then none else some text

end AgentSpec
