import AgentSpec.Finding
import AgentSpec.Json.Printer

/-! Reports about one file, for people and for programs. -/
namespace AgentSpec

inductive ReportFormat where
  | text
  | json
deriving DecidableEq

/-- What was found in a file, and whether that stands in the way. -/
structure Report where
  file : String
  valid : Bool
  blocked : Bool
  output : Option String
  findings : List Finding
deriving DecidableEq

namespace Finding

def json (f : Finding) : Json :=
  .object
    [("severity", .string f.severity.name), ("path", .string f.path),
     ("message", .string f.message), ("error", .object f.defect.fields)]

end Finding

namespace Report

def ofVerdict (file : String) (verdict : Verdict) (strict : Bool) : Report where
  file := file
  valid := verdict.isValid
  blocked := !verdict.isUsable strict
  output := none
  findings := verdict.findings

/-- The report with the path of the document that was written. -/
def withOutput (report : Report) (output : Option String) : Report := { report with output }

/-- The line that counts the findings of a report. -/
def summary (report : Report) : String :=
  let count (severity : Severity) := toString (Verdict.count ⟨report.findings⟩ severity)
  report.file ++ ": " ++ count .error ++ " error(s), " ++ count .warning ++ " warning(s), " ++
    count .info ++ " info"

/-- The last line, if there is more to say than the summary. -/
def outcome (report : Report) : List String :=
  match report.output with
  | some path => ["wrote " ++ path]
  | none => if report.blocked then ["blocked"] else []

def lines (report : Report) : List String :=
  report.findings.map Finding.line ++ report.summary :: report.outcome

/-- The report as a JSON object; the output is left out if there is none. -/
def json (report : Report) : Json :=
  let output := report.output.toList.map fun path => ("output", Json.string path)
  .object
    ([("file", .string report.file), ("valid", .bool report.valid),
      ("blocked", .bool report.blocked)] ++ output ++
     [("findings", .array (report.findings.map Finding.json))])

/-- The text of a report, which ends with a line break. -/
def render (report : Report) : ReportFormat → String
  | .text => String.join (report.lines.map (· ++ "\n"))
  | .json => report.json.pretty 0 ++ "\n"

end Report

end AgentSpec
