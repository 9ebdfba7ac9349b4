/-! The nodes of a workflow. -/
namespace AgentSpec

/-- What a node does, which decides where its reference is looked up. -/
inductive NodeKind where
  | task
  | module
  | tool
  | subworkflow
deriving DecidableEq

namespace NodeKind

/-- Every kind, in the order in which documents list them. -/
def all : List NodeKind := [task, module, tool, subworkflow]

def name : NodeKind → String
  | task => "task"
  | module => "module"
  | tool => "tool"
  | subworkflow => "subworkflow"

/-- Whether a node of this kind must name what it uses or runs. -/
def requiresReference : NodeKind → Bool
  | task => false
  | module | tool | subworkflow => true

end NodeKind

structure Node where
  name : String
  goal : String
  description : Option String
  kind : NodeKind
  reference : Option String
  dependsOn : List String
  inputs : List String
  outputs : List String
deriving DecidableEq

end AgentSpec
