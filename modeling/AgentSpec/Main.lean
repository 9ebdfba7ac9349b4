import AgentSpec.CommandLine

/-! The program: real files, standard output and the exit status. -/
namespace AgentSpec

def FileError.ofSystem : IO.Error → FileError
  | .noFileOrDirectory .. => .notFound
  | .noSuchThing .. => .notFound
  | .alreadyExists .. => .alreadyThere
  | .inappropriateType .. => .notDirectory
  | error => .other (toString error)

instance : Files IO where
  read path := do
    match ← (IO.FS.readBinFile path).toBaseIO with
    | .error error => pure (.error (.ofSystem error))
    | .ok bytes => pure ((String.fromUTF8? bytes).elim (.error .notText) .ok)
  write path content := do
    let parent := "/".intercalate (path.splitOn "/").dropLast
    let attempt : IO Unit := do
      if !parent.isEmpty then IO.FS.createDirAll parent
      IO.FS.writeFile path content
    match ← attempt.toBaseIO with
    | .error error => pure (.error (.ofSystem error))
    | .ok () => pure (.ok ())

end AgentSpec

open AgentSpec in
/-- Answers the arguments. Reports go to standard output, failures to standard error. -/
def main (arguments : List String) : IO UInt32 := do
  match Request.ofArguments arguments with
  | none =>
    IO.eprintln "usage: arbor validate FILE | arbor compile FILE --output FILE"
    pure 2
  | some request =>
    let answer : Except CommandFailure Outcome ← request.perform
    match answer with
    | .ok outcome => IO.print outcome.report
    | .error failure => IO.eprintln ("error: " ++ failure.message)
    pure (UInt32.ofNat (Request.exitStatus answer))
