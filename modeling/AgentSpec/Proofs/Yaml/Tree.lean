import AgentSpec.Yaml.Shape

/-! The JSON values that plain nodes stand for: nodes without tags and aliases. -/
namespace AgentSpec

namespace Json

mutual

/-- How many lists and objects stand inside each other. -/
def depth : Json → Nat
  | .array items => itemsDepth items + 1
  | .object fields => fieldsDepth fields + 1
  | .null | .bool _ | .number _ | .string _ => 0

/-- The depth of the deepest item. -/
def itemsDepth : List Json → Nat
  | [] => 0
  | item :: rest => max item.depth (itemsDepth rest)

/-- The depth of the deepest value of a field. -/
def fieldsDepth : List (String × Json) → Nat
  | [] => 0
  | (_, value) :: rest => max value.depth (fieldsDepth rest)

end

theorem depth_le_itemsDepth {item : Json} {items : List Json} (h : item ∈ items) :
    item.depth ≤ itemsDepth items := by
  induction items with
  | nil => cases h
  | cons first rest ih =>
    unfold itemsDepth
    rcases List.mem_cons.1 h with rfl | h
    · exact Nat.le_max_left _ _
    · exact Nat.le_trans (ih h) (Nat.le_max_right _ _)

theorem depth_le_fieldsDepth {field : String × Json} {fields : List (String × Json)}
    (h : field ∈ fields) : field.2.depth ≤ fieldsDepth fields := by
  induction fields with
  | nil => cases h
  | cons first rest ih =>
    obtain ⟨name, value⟩ := first
    unfold fieldsDepth
    rcases List.mem_cons.1 h with rfl | h
    · exact Nat.le_max_left _ _
    · exact Nat.le_trans (ih h) (Nat.le_max_right _ _)

end Json

namespace Yaml

/-- The JSON value of a scalar with a meaning and a text. -/
def Meaning.tree? (meaning : Meaning) (text : String) : Option Json :=
  match meaning with
  | .null => some .null
  | .bool value => some (.bool value)
  | .int n => some (.number (.int n))
  | .float x => some (.number (.float x))
  | .text => some (.string text)
  | .wide _ | .infinity _ | .nan => none

namespace Node

mutual

/-- The JSON value that a node stands for, if it has neither tags nor aliases. -/
def tree? : Node → Option Json
  | .scalar none style text =>
    match scalarMeaning none style text with
    | .ok meaning => meaning.tree? text
    | .error _ => none
  | .sequence none items => (treeItems? items).map .array
  | .mapping none entries => (treeFields? entries).map .object
  | .scalar (some _) .. | .sequence (some _) _ | .mapping (some _) _ | .alias _ | .broken => none

/-- The JSON values of all items. -/
def treeItems? : List Node → Option (List Json)
  | [] => some []
  | item :: rest =>
    match tree? item, treeItems? rest with
    | some value, some values => some (value :: values)
    | _, _ => none

/-- The keys, which must be strings, with the JSON values of their values. -/
def treeFields? : List (Node × Node) → Option (List (String × Json))
  | [] => some []
  | (key, value) :: rest =>
    match tree? key, tree? value, treeFields? rest with
    | some (.string name), some value, some fields => some ((name, value) :: fields)
    | _, _, _ => none

end

end Node

/-- The JSON value that a whole text stands for. -/
def Document.tree? (document : Document) : Option Json :=
  if document.sound then document.root.bind Node.tree? else none

end Yaml

end AgentSpec
