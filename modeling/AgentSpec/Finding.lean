import AgentSpec.Defect
import AgentSpec.Place

/-! Findings, and the verdict that they add up to. -/
namespace AgentSpec

/-- How much a finding weighs, in ascending order. -/
inductive Severity where
  | info
  | warning
  | error
deriving DecidableEq

namespace Severity

/-- The name in reports that are read by programs. -/
def name : Severity → String
  | info => "info"
  | warning => "warning"
  | error => "error"

/-- The name in reports that are read by people. -/
def label : Severity → String
  | info => "INFO"
  | warning => "WARNING"
  | error => "ERROR"

/-- Greater is worse. -/
def rank : Severity → Nat
  | info => 0
  | warning => 1
  | error => 2

def worse (a b : Severity) : Severity := if a.rank < b.rank then b else a

end Severity

structure Finding where
  severity : Severity
  place : Place
  defect : Defect
deriving DecidableEq

namespace Finding

def error (place : Place) (defect : Defect) : Finding := ⟨.error, place, defect⟩

def warning (place : Place) (defect : Defect) : Finding := ⟨.warning, place, defect⟩

def info (place : Place) (defect : Defect) : Finding := ⟨.info, place, defect⟩

def path (f : Finding) : String := f.place.render

def message (f : Finding) : String := f.defect.message

def code (f : Finding) : String := f.defect.code

def line (f : Finding) : String :=
  f.severity.label ++ " " ++ f.code ++ " " ++ f.path ++ ": " ++ f.message

end Finding

/-- A check is handed what has been found so far, and hands it on with what it finds itself. -/
abbrev Check := Array Finding → Array Finding

namespace Check

/-- What a check finds if nothing has been found before. -/
def alone (check : Check) : List Finding := (check #[]).toList

/-- The checks of the elements of a list, one after the other. -/
def each (items : List α) (check : α → Check) : Check := fun found =>
  items.foldl (fun found item => check item found) found

/-- The checks of the elements of a list with their positions, one after the other. -/
def eachAt (items : List α) (check : α → Nat → Check) : Check :=
  each items.zipIdx fun (item, i) => check item i

end Check

/-- All findings about a definition in the order in which the rules report them. -/
structure Verdict where
  findings : List Finding
deriving DecidableEq

namespace Verdict

def ofSeverity (v : Verdict) (severity : Severity) : List Finding :=
  v.findings.filter (·.severity == severity)

def count (v : Verdict) (severity : Severity) : Nat := (v.ofSeverity severity).length

/-- A definition is valid when no finding is an error. -/
def isValid (v : Verdict) : Bool := !v.findings.any (·.severity == .error)

def hasWarnings (v : Verdict) : Bool := v.findings.any (·.severity == .warning)

/-- Whether a definition may be compiled; strictly, warnings stand in the way too. -/
def isUsable (v : Verdict) (strict : Bool) : Bool := v.isValid && !(strict && v.hasWarnings)

def worst? (v : Verdict) : Option Severity :=
  v.findings.foldl (fun found f => some (found.elim f.severity (·.worse f.severity))) none

end Verdict

end AgentSpec
