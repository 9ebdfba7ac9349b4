import AgentSpec.Definition.Schema
import AgentSpec.Definition.Workflow

/-! Agents, which hold everything else. Names may repeat; that is for the rules to report. -/
namespace AgentSpec

/-- When the task of an agent counts as done and when as failed. -/
structure Criteria where
  success : String
  failure : String
deriving DecidableEq

/-- What a module or a tool offers. -/
structure Capability where
  name : String
  description : String
  inputSchema : Option Schema
  outputSchema : Option Schema
deriving DecidableEq

/-- A template with named placeholders, and the names it declares. -/
structure Prompt where
  name : String
  description : String
  template : String
  parameters : List String
deriving DecidableEq

/-- Whether an agent stands alone or is assembled from others. -/
inductive AgentKind where
  | atomic
  | composite
deriving DecidableEq

namespace AgentKind

/-- Both kinds, in the order in which documents list them. -/
def all : List AgentKind := [atomic, composite]

def name : AgentKind → String
  | atomic => "atomic"
  | composite => "composite"

end AgentKind

structure Agent where
  name : String
  version : String
  description : String
  kind : AgentKind
  goal : Option String
  criteria : Option Criteria
  inputSchema : Option Schema
  outputSchema : Option Schema
  workflows : List Workflow
  modules : List Capability
  prompts : List Prompt
  tools : List Capability
deriving DecidableEq

namespace Agent

def workflow? (agent : Agent) (name : String) : Option Workflow :=
  agent.workflows.find? (·.name == name)

def module? (agent : Agent) (name : String) : Option Capability :=
  agent.modules.find? (·.name == name)

def prompt? (agent : Agent) (name : String) : Option Prompt :=
  agent.prompts.find? (·.name == name)

def tool? (agent : Agent) (name : String) : Option Capability :=
  agent.tools.find? (·.name == name)

end Agent

end AgentSpec
