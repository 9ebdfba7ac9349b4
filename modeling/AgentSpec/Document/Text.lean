import AgentSpec.Document.Agent
import AgentSpec.Yaml.Printer

/-! The text of a document: definitions written as YAML and read back. -/
namespace AgentSpec

/-- The name and the number under which the program announces itself. -/
def programTitle : String := "arbor 0.1.0"

def advisoryHeader : String :=
  "# Generated by " ++ programTitle ++ "\n" ++
  "# This document describes an agent. It does not execute one.\n" ++
  "# Submit it to the platform for review; do not edit by hand.\n"

def Agent.render (agent : Agent) : String :=
  advisoryHeader ++ Yaml.render (AgentDocument.codec.write (.ofAgent agent))

inductive LoadError where
  | parse (failure : Yaml.Failure)
  | definition (defect : Defect)

def Agent.load (text : String) : Except LoadError Agent :=
  match (Yaml.Document.ofText text).read AgentDocument.codec.read with
  | .error failure => .error (.parse failure)
  | .ok d =>
    match d.define with
    | .error defect => .error (.definition defect)
    | .ok agent => .ok agent

end AgentSpec
