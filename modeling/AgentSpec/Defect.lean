import AgentSpec.Json.Value

/-! What can be wrong with a definition. -/
namespace AgentSpec

/-- A cause of a finding, or of a draft that cannot be finished. -/
inductive Defect where
  /-- A draft was finished without a field that it needs. -/
  | missingField (field builder : String)
  /-- A value does not have the form that its field asks for. -/
  | invalidFormat (field value expected : String)
  | unresolved (origin target : String)
  | duplicate (scope name : String)
  | emptyCollection (collection parent : String)
  /-- A chain of dependencies leads back to its start. -/
  | cycle (workflow : String) (path : List String)
  /-- A node is not connected with the entry of its workflow. -/
  | unreachable (workflow node : String)
  | unused (owner name : String)
  | reservedTerm (location term : String)
deriving DecidableEq

namespace Defect

def code : Defect → String
  | missingField .. => "MISSING_FIELD"
  | invalidFormat .. => "INVALID_FORMAT"
  | unresolved .. => "INVALID_REFERENCE"
  | duplicate .. => "DUPLICATE_NAME"
  | emptyCollection .. => "EMPTY_COLLECTION"
  | cycle .. => "CYCLIC_DEPENDENCY"
  | unreachable .. => "UNREACHABLE_NODE"
  | unused .. => "UNUSED_DECLARATION"
  | reservedTerm .. => "RESERVED_TERM"

def message : Defect → String
  | missingField field builder =>
    "Required field '" ++ field ++ "' is not set in " ++ builder
  | invalidFormat field value expected =>
    "Invalid " ++ field ++ " '" ++ value ++ "': expected " ++ expected
  | unresolved origin target => "'" ++ origin ++ "' references undefined '" ++ target ++ "'"
  | duplicate scope name => "Duplicate name '" ++ name ++ "' in " ++ scope
  | emptyCollection collection parent => parent ++ " has no " ++ collection
  | cycle workflow path =>
    "Cyclic dependency in workflow '" ++ workflow ++ "': " ++ " -> ".intercalate path
  | unreachable workflow node =>
    "Node '" ++ node ++ "' in workflow '" ++ workflow ++ "' is unreachable from the entry node"
  | unused owner name => owner ++ " declares '" ++ name ++ "' but nothing uses it"
  | reservedTerm location term => location ++ " contains reserved term '" ++ term ++ "'"

/-- The fields of a defect as reports show them, its kind first. -/
def fields : Defect → List (String × Json)
  | missingField field builder =>
    [("kind", .string "missing_field"), ("field", .string field), ("builder", .string builder)]
  | invalidFormat field value expected =>
    [("kind", .string "invalid_format"), ("field", .string field), ("value", .string value),
     ("expected", .string expected)]
  | unresolved origin target =>
    [("kind", .string "reference"), ("origin", .string origin), ("target", .string target)]
  | duplicate scope name =>
    [("kind", .string "duplicate"), ("scope", .string scope), ("name", .string name)]
  | emptyCollection collection parent =>
    [("kind", .string "empty_collection"), ("collection", .string collection),
     ("parent", .string parent)]
  | cycle workflow path =>
    [("kind", .string "cyclic_dependency"), ("workflow", .string workflow),
     ("path", .array (path.map .string))]
  | unreachable workflow node =>
    [("kind", .string "unreachable_node"), ("workflow", .string workflow),
     ("node", .string node)]
  | unused owner name =>
    [("kind", .string "unused_declaration"), ("owner", .string owner), ("name", .string name)]
  | reservedTerm location term =>
    [("kind", .string "reserved_term"), ("location", .string location), ("term", .string term)]

end Defect

end AgentSpec
