/-! Places in a document: routes through fields and list items. -/
namespace AgentSpec

/-- One step of a route: into the field of a name or to the list item at an index. -/
inductive Step where
  | field (name : String)
  | item (index : Nat)
deriving DecidableEq

/-- A route from the whole document to one of its parts. -/
abbrev Place := List Step

namespace Place

/-- Fields are joined by dots and indices stand in brackets. -/
def render : Place → String
  | [] => ""
  | .field name :: rest => name ++ renderRest rest
  | .item index :: rest => "[" ++ toString index ++ "]" ++ renderRest rest
where
  renderRest : Place → String
    | [] => ""
    | .field name :: rest => "." ++ name ++ renderRest rest
    | .item index :: rest => "[" ++ toString index ++ "]" ++ renderRest rest

def field (place : Place) (name : String) : Place := place ++ [.field name]

def item (place : Place) (index : Nat) : Place := place ++ [.item index]

def top (name : String) : Place := [.field name]

/-- The item at an index of a list of the whole document. -/
def entry (list : String) (index : Nat) : Place := [.field list, .item index]

/-- The node at index `j` of the workflow at index `i`. -/
def node (i j : Nat) : Place := [.field "workflows", .item i, .field "nodes", .item j]

end Place

end AgentSpec
