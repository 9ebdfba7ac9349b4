import AgentSpec.Definition.Agent
import AgentSpec.Finding
import AgentSpec.Json.Pointer
import AgentSpec.Json.Printer

/-!
The shape of schemas. Only the keywords for types, properties, items, references and definitions
are looked at. A reference that starts with `#` has to lead to a part of the same document.
-/
namespace AgentSpec.Rule

def typeNames : List String :=
  ["object", "array", "string", "number", "integer", "boolean", "null"]

/-- The text of a value in a message; beyond eighty characters it is cut. -/
def excerpt (value : Json) : String :=
  let text := value.compact
  if 80 < text.length then String.ofList (text.toList.take 77) ++ "..." else text

def invalid (place : Place) (field : String) (value : Json) (expected : String) : Finding :=
  .error place (.invalidFormat field (excerpt value) expected)

def isTypeName (value : Json) : Bool :=
  match value with
  | .string s => typeNames.contains s
  | _ => false

/-- Whether a value is the name of a type or a list of some of them. -/
def isType (value : Json) : Bool :=
  match value with
  | .array items => !items.isEmpty && items.all isTypeName
  | other => isTypeName other

/-- A type is the name of a type or a list of some. -/
def checkType (place : Place) (fields : List (String × Json)) : Check := fun found =>
  match Json.field? "type" fields with
  | some value =>
    if isType value then found
    else found.push (invalid (place.field "type") "schema type" value
      "a JSON Schema type name or a list of them")
  | none => found

/-- The names of the properties, if they are given as an object. -/
def propertyNames? (fields : List (String × Json)) : Option (List String) :=
  match Json.field? "properties" fields with
  | some (.object properties) => some (properties.map (·.1))
  | _ => none

/-- A required property is a string, and a declared property if properties are declared. -/
def checkRequired (place : Place) (fields : List (String × Json)) : Check := fun found =>
  match Json.field? "required" fields with
  | some (.array names) =>
    Check.each names (fun name found =>
      match name with
      | .string key =>
        match propertyNames? fields with
        | some declared =>
          if declared.contains key then found
          else found.push (invalid (place.field "required") "required property" name
            "a declared property")
        | none => found
      | _ => found.push (invalid (place.field "required") "required property" name
          "a property name string")) found
  | some other => found.push (invalid (place.field "required") "schema required" other
      "a list of property names")
  | none => found

/-- A reference is a string, and one into the same document leads somewhere. -/
def checkReference (root : Json) (place : Place) (fields : List (String × Json)) : Check :=
  fun found =>
  match Json.field? "$ref" fields with
  | some (.string target) =>
    match target.toList with
    | '#' :: pointer =>
      if (root.pointer? pointer).isSome then found
      else found.push (invalid (place.field "$ref") "schema $ref" (.string target)
        "a pointer into this schema")
    | _ => found
  | some other =>
    found.push (invalid (place.field "$ref") "schema $ref" other "a reference string")
  | none => found

theorem sizeOf_field?_lt {name : String} {fields : List (String × Json)} {value : Json}
    (h : Json.field? name fields = some value) : sizeOf value < sizeOf fields := by
  induction fields with
  | nil => simp [Json.field?] at h
  | cons first rest ih =>
    obtain ⟨key, found⟩ := first
    simp only [Json.field?] at h
    split at h
    · cases h
      simp only [List.cons.sizeOf_spec, Prod.mk.sizeOf_spec]
      omega
    · have := ih h
      simp only [List.cons.sizeOf_spec, Prod.mk.sizeOf_spec]
      omega

mutual

/-- Checks a schema, or a part of `root` that is one. -/
def checkSchema (root : Json) (place : Place) (value : Json) : Check := fun found =>
  match value with
  | .object fields =>
    let found := checkType place fields found
    let found := checkTable root place fields "properties" "schema properties"
      "an object of property schemas" found
    let found := checkRequired place fields found
    let found := checkItems root place fields found
    let found := checkReference root place fields found
    let found := checkTable root place fields "definitions" "schema definitions"
      "an object of named schemas" found
    checkTable root place fields "$defs" "schema definitions" "an object of named schemas" found
  | other => found.push (invalid place "schema" other "a JSON Schema object")
termination_by (sizeOf value, 0)

/-- Checks the schemas of a keyword that holds an object of schemas. -/
def checkTable (root : Json) (place : Place) (fields : List (String × Json))
    (keyword field expected : String) : Check := fun found =>
  match _h : Json.field? keyword fields with
  | some (.object schemas) => checkEntries root (place.field keyword) schemas found
  | some other => found.push (invalid (place.field keyword) field other expected)
  | none => found
termination_by (sizeOf fields, 1)
decreasing_by
  have := sizeOf_field?_lt _h
  simp only [Json.object.sizeOf_spec] at this
  exact Prod.Lex.left _ _ (by omega)

/-- Checks the values of an object of schemas, each under its name. -/
def checkEntries (root : Json) (place : Place) (schemas : List (String × Json)) : Check :=
  fun found =>
  match schemas with
  | [] => found
  | (name, schema) :: rest =>
    checkEntries root place rest (checkSchema root (place.field name) schema found)
termination_by (sizeOf schemas, 0)

/-- Checks the schemas of items, which are one for all or one for each position. -/
def checkItems (root : Json) (place : Place) (fields : List (String × Json)) : Check := fun found =>
  match _h : Json.field? "items" fields with
  | some (.array schemas) => checkPositions root (place.field "items") 0 schemas found
  | some schema => checkSchema root (place.field "items") schema found
  | none => found
termination_by (sizeOf fields, 1)
decreasing_by
  · have := sizeOf_field?_lt _h
    simp only [Json.array.sizeOf_spec] at this
    exact Prod.Lex.left _ _ (by omega)
  · exact Prod.Lex.left _ _ (sizeOf_field?_lt _h)

def checkPositions (root : Json) (place : Place) (index : Nat) (schemas : List Json) : Check :=
  fun found =>
  match schemas with
  | [] => found
  | schema :: rest =>
    checkPositions root place (index + 1) rest (checkSchema root (place.item index) schema found)
termination_by (sizeOf schemas, 0)

end

def checkOptional (place : Place) (schema : Option Schema) : Check := fun found =>
  match schema with
  | some schema => checkSchema schema.value place schema.value found
  | none => found

def checkBoth (place : Place) (input output : Option Schema) : Check := fun found =>
  let found := checkOptional (place.field "input_schema") input found
  checkOptional (place.field "output_schema") output found

/-- Every schema of the agent, its modules and its tools has the shape of a schema. -/
def checkSchemas (agent : Agent) : Check := fun found =>
  let found := checkBoth [] agent.inputSchema agent.outputSchema found
  let found := Check.eachAt agent.modules (fun module i =>
    checkBoth (Place.entry "modules" i) module.inputSchema module.outputSchema) found
  Check.eachAt agent.tools (fun tool i =>
    checkBoth (Place.entry "tools" i) tool.inputSchema tool.outputSchema) found

def schemaFindings (agent : Agent) : List Finding := (checkSchemas agent).alone

end AgentSpec.Rule
