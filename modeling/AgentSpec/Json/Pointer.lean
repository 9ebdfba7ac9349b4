import AgentSpec.Json.Value
import AgentSpec.Text.Cut

/-! JSON pointers: routes from a value to a part of it. -/
namespace AgentSpec.Json

/-- One step of a pointer as written: `~1` stands for a slash and `~0` for a tilde. -/
def unescapeStep : List Char → List Char
  | '~' :: '1' :: rest => '/' :: unescapeStep rest
  | '~' :: '0' :: rest => '~' :: unescapeStep rest
  | c :: rest => c :: unescapeStep rest
  | [] => []

/-- A step that selects an array item: decimal digits without needless zeros. -/
def indexStep? (step : List Char) : Option Nat :=
  if step.isEmpty || !step.all Char.isDigit then none
  else if step.length ≠ 1 && step.head? == some '0' then none
  else
    let index := step.foldl (fun n c => 10 * n + (c.toNat - '0'.toNat)) 0
    if index < UInt64.size then some index else none

def step? (step : List Char) : Json → Option Json
  | .object fields => field? (String.ofList step) fields
  | .array items => (indexStep? step).bind fun i => items[i]?
  | _ => none

/-- The part of a value that a pointer leads to; an empty pointer leads to the value itself. -/
def pointer? (value : Json) (pointer : List Char) : Option Json :=
  match pointer with
  | [] => some value
  | '/' :: route =>
    ((Text.cutAt '/' route).map unescapeStep).foldl
      (fun found step => found.bind fun v => v.step? step) (some value)
  | _ => none

end AgentSpec.Json
