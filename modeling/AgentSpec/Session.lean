import AgentSpec.Compiler
import AgentSpec.Files.Basic
import AgentSpec.Report

/-! Commands on files: what they report, and with which exit status they end. -/
namespace AgentSpec

inductive CommandFailure where
  | unreadableFile (path : String) (error : FileError)
  | load (error : LoadError)
  | unwritableFile (path : String) (error : FileError)
  | unreadableConfiguration (path : String) (error : FileError)
  | configuration (failure : Yaml.Failure)

/-- How a command ends: its exit status and its report. -/
structure Outcome where
  status : Nat
  report : String
deriving DecidableEq

namespace CommandFailure

def headline : CommandFailure → String
  | unreadableFile path _ => "Failed to read " ++ path ++ ": "
  | load (.parse _) => "Failed to parse definition: "
  | load (.definition _) => ""
  | unwritableFile path _ => "Failed to write " ++ path ++ ": "
  | unreadableConfiguration path _ => "Failed to read config " ++ path ++ ": "
  | configuration _ => "Invalid config: "

def details : CommandFailure → String
  | unreadableFile _ error | unwritableFile _ error | unreadableConfiguration _ error =>
    error.message
  | load (.parse failure) | configuration failure => failure.message?.getD "not readable as YAML"
  | load (.definition defect) => defect.message

def message (failure : CommandFailure) : String := failure.headline ++ failure.details

/-- The exit status: definitions that lack something are invalid, all else is trouble with files. -/
def status : CommandFailure → Nat
  | load (.definition _) => 1
  | _ => 2

end CommandFailure

namespace Agent

def loadFile [Monad m] [Files m] (path : String) : m (Except CommandFailure Agent) := do
  match ← Files.read path with
  | .error error => pure (.error (.unreadableFile path error))
  | .ok text => pure ((Agent.load text).mapError .load)

end Agent

namespace Configuration

def loadFile [Monad m] [Files m] (path : String) : m (Except CommandFailure Configuration) := do
  match ← Files.read path with
  | .error error => pure (.error (.unreadableConfiguration path error))
  | .ok text => pure ((Configuration.load text).mapError .configuration)

/-- The configuration from a file, if one is named. A flag can only make it stricter. -/
def effective [Monad m] [Files m] (path : Option String) (strict : Bool) :
    m (Except CommandFailure Configuration) := do
  let base ← match path with
    | some path => loadFile path
    | none => pure (.ok {})
  pure (base.map fun c => if strict then c.change (.strict true) else c)

end Configuration

def writeDocument [Monad m] [Files m] (path text : String) : m (Except CommandFailure Unit) := do
  return (← Files.write path text).mapError (.unwritableFile path)

namespace Compiler

/-- Compiles an agent, and writes the document if there is one. -/
def compileToFile [Monad m] [Files m] (compiler : Compiler) (agent : Agent) (path : String) :
    m (Except CommandFailure Compilation) := do
  let compilation := compiler.compile agent
  match compilation.output with
  | none => pure (.ok compilation)
  | some text => return (← writeDocument path text).map fun _ =>
      { compilation with outputPath := some path }

end Compiler

/-- A compiler with the format of its reports, and whether warnings count in them. -/
structure Session where
  compiler : Compiler
  format : ReportFormat
  strict : Bool
deriving DecidableEq

namespace Session

def ofConfiguration (c : Configuration) (format : ReportFormat) : Session :=
  ⟨.ofConfiguration c, format, c.strict⟩

/-- The report of a verdict on a file, and the exit status that goes with it. -/
def outcome (session : Session) (file : String) (verdict : Verdict) (output : Option String)
    (success : Bool) : Outcome where
  status := if success then 0 else 1
  report := ((Report.ofVerdict file verdict session.strict).withOutput output).render session.format

def validate [Monad m] [Files m] (session : Session) (file : String) :
    m (Except CommandFailure Outcome) := do
  return (← Agent.loadFile file).map fun agent =>
    let verdict := session.compiler.validate agent
    session.outcome file verdict none (verdict.isUsable session.strict)

/-- Reports the findings about a file, and writes its document if they allow it. -/
def compile [Monad m] [Files m] (session : Session) (file output : String) :
    m (Except CommandFailure Outcome) := do
  match ← Agent.loadFile file with
  | .error failure => pure (.error failure)
  | .ok agent =>
    return (← session.compiler.compileToFile agent output).map fun compilation =>
      session.outcome file compilation.verdict compilation.outputPath compilation.isSuccessful

/-- A definition that lacks something is reported like any other finding. -/
def recover (session : Session) (file : String) :
    Except CommandFailure Outcome → Except CommandFailure Outcome
  | .error (.load (.definition defect)) =>
    .ok (session.outcome file ⟨[Finding.error (Place.top "document") defect]⟩ none false)
  | result => result

end Session

end AgentSpec
