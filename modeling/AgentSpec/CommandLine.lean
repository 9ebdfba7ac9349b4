import AgentSpec.Session

/-! The command line: what it asks for, and how that is answered. -/
namespace AgentSpec

inductive Command where
  | validate (file : String)
  | compile (file output : String)
deriving DecidableEq

inductive Request where
  | version
  | run (command : Command) (configuration : Option String) (strict : Bool) (format : ReportFormat)
deriving DecidableEq

namespace Request

structure Settings where
  operands : List String := []
  output : Option String := none
  configuration : Option String := none
  strict : Bool := false
  format : ReportFormat := .text
  version : Bool := false

def format? : String → Option ReportFormat
  | "text" => some .text
  | "json" => some .json
  | _ => none

def Settings.set (s : Settings) (name value : String) : Option Settings :=
  match name with
  | "--config" => some { s with configuration := some value }
  | "--output" | "-o" =>
    if s.operands.isEmpty then none else some { s with output := some value }
  | "--format" => (format? value).map fun format => { s with format }
  | _ => none

def Settings.flag (s : Settings) (name : String) : Option Settings :=
  match name with
  | "--strict" => some { s with strict := true }
  | "--log-json" | "--verbose" => some s
  | "--version" | "-V" => if s.operands.isEmpty then some { s with version := true } else none
  | _ => if name.startsWith "-v" && (name.drop 1).all (· == 'v') then some s else none

/-- The name and the value of an option that holds both: `--name=value`, or `-o` and the value. -/
def attached? (argument : String) : Option (String × String) :=
  if argument.startsWith "--" then
    let name := argument.toList.takeWhile (· != '=')
    if name.length < argument.length then
      some (String.ofList name, String.ofList (argument.toList.drop (name.length + 1)))
    else none
  else if argument.startsWith "-o" && argument != "-o" then
    match argument.toList.drop 2 with
    | '=' :: value => some ("-o", String.ofList value)
    | value => some ("-o", String.ofList value)
  else none

def readSettings (s : Settings) : List String → Option Settings
  | [] => some s
  | argument :: rest =>
    if s.version then some s
    else if argument.startsWith "-" && argument != "-" then
      match attached? argument with
      | some (name, value) =>
        match s.set name value with
        | some s => readSettings s rest
        | none => none
      | none =>
        match s.flag argument with
        | some s => readSettings s rest
        | none =>
          match rest with
          | value :: rest =>
            match s.set argument value with
            | some s => readSettings s rest
            | none => none
          | [] => none
    else readSettings { s with operands := s.operands ++ [argument] } rest

def ofArguments (arguments : List String) : Option Request := do
  let s ← readSettings {} arguments
  if s.version then pure .version
  else
    match s.operands, s.output with
    | ["validate", file], none =>
      pure (.run (.validate file) s.configuration s.strict s.format)
    | ["compile", file], some output =>
      pure (.run (.compile file output) s.configuration s.strict s.format)
    | _, _ => none

def perform [Monad m] [Files m] : Request → m (Except CommandFailure Outcome)
  | .version => pure (.ok ⟨0, programTitle ++ "\n"⟩)
  | .run command configuration strict format => do
    match ← Configuration.effective configuration strict with
    | .error failure => pure (.error failure)
    | .ok configuration =>
      let session := Session.ofConfiguration configuration format
      match command with
      | .validate file => return session.recover file (← session.validate file)
      | .compile file output => return session.recover file (← session.compile file output)

/-- The exit status of the program once a request has been performed. -/
def exitStatus : Except CommandFailure Outcome → Nat
  | .ok outcome => outcome.status
  | .error failure => failure.status

end Request

end AgentSpec
