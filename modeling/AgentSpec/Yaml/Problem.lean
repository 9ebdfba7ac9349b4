import AgentSpec.Json.Value
import AgentSpec.Place
import AgentSpec.Text.Quote
import AgentSpec.Yaml.Scalar

/-! What can be wrong with the shape of a document that is proper YAML. -/
namespace AgentSpec.Yaml

/-- What stands where something else should. -/
inductive Found where
  | scalar (meaning : Meaning) (text : String)
  | sequence
  | mapping
  /-- A value with a tag of its own. -/
  | tagged

namespace Found

/-- Numbers in messages are never written with a power. -/
def numberLayout : NumberLayout := ⟨-400, 400, ""⟩

def describe : Found → String
  | scalar .null _ => "unit value"
  | scalar (.bool value) _ => "boolean `" ++ (if value then "true" else "false") ++ "`"
  | scalar (.int n) _ => "integer `" ++ toString n ++ "`"
  | scalar (.wide n) _ => "integer `" ++ toString n ++ "` as " ++ if n < 0 then "i128" else "u128"
  | scalar (.float x) _ => "floating point `" ++ numberLayout.render x ++ "`"
  | scalar (.infinity true) _ => "floating point `-inf`"
  | scalar (.infinity false) _ => "floating point `inf`"
  | scalar .nan _ => "floating point `NaN`"
  | scalar .text text => "string " ++ Text.quote text
  | sequence => "sequence"
  | mapping => "map"
  | tagged => "enum"

end Found

inductive Problem where
  | unknownField (name : String) (known : List String)
  | duplicateField (name : String)
  | unknownVariant (name : String) (known : List String)
  | unexpected (found : Found) (wanted : String)
  /-- A text does not fit the type that a tag demands. -/
  | unfit (text wanted : String)

namespace Problem

def alternatives (names : List String) : String :=
  match names.map fun name => "`" ++ name ++ "`" with
  | [] => "nothing"
  | [a] => a
  | [a, b] => a ++ " or " ++ b
  | quoted => "one of " ++ ", ".intercalate quoted

def message : Problem → String
  | unknownField name known => "unknown field `" ++ name ++ "`, expected " ++ alternatives known
  | duplicateField name => "duplicate field `" ++ name ++ "`"
  | unknownVariant name known => "unknown variant `" ++ name ++ "`, expected " ++ alternatives known
  | unexpected found wanted => "invalid type: " ++ found.describe ++ ", expected " ++ wanted
  | unfit text wanted => "invalid value: string " ++ Text.quote text ++ ", expected " ++ wanted

end Problem

inductive Failure where
  /-- The text is not YAML or exceeds a limit. -/
  | unreadable
  /-- The text is YAML, but something in it has the wrong shape. -/
  | misshapen (place : Place) (problem : Problem)

namespace Failure

/-- The message about a wrong shape; the whole document is not mentioned as a place. -/
def message? : Failure → Option String
  | unreadable => none
  | misshapen [] problem => some problem.message
  | misshapen place problem => some (place.render ++ ": " ++ problem.message)

end Failure

end AgentSpec.Yaml
