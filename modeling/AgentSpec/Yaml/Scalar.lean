import AgentSpec.Number.Binary64
import AgentSpec.Yaml.Character

/-! What a plain scalar stands for: null, a truth value, a number or its own text. -/
namespace AgentSpec.Yaml

inductive Meaning where
  | null
  | bool (value : Bool)
  /-- An integer of sixty-four bits, signed or unsigned. -/
  | int (value : Int)
  /-- An integer that needs up to one hundred and twenty-eight bits. -/
  | wide (value : Int)
  | float (value : Binary64)
  | infinity (negative : Bool)
  | nan
  | text
deriving DecidableEq

def isNull (s : String) : Bool := s == "~" || s == "null" || s == "Null" || s == "NULL"

def bool? (s : String) : Option Bool :=
  if s == "true" || s == "True" || s == "TRUE" then some true
  else if s == "false" || s == "False" || s == "FALSE" then some false
  else none

def dropSign : List Char → List Char
  | '+' :: rest => rest
  | '-' :: rest => rest
  | text => text

/-- Digits with a needless zero in front, which are no number but a text. -/
def isZeroPadded (text : List Char) : Bool :=
  match dropSign text with
  | '0' :: rest => !rest.isEmpty && rest.all Char.isDigit
  | _ => false

/-- The number that digits of a radix stand for; all characters must be such digits. -/
def digits? (radix : Nat) (text : List Char) : Option Nat :=
  if text.isEmpty then none
  else
    text.foldlM
      (fun n c => do
        let d ← hexDigit? c
        if d < radix then some (radix * n + d) else none)
      0

/-- The number behind a radix mark such as `0x`. -/
def marked? : List Char → Option Nat
  | '0' :: 'x' :: rest => digits? 16 rest
  | '0' :: 'o' :: rest => digits? 8 rest
  | '0' :: 'b' :: rest => digits? 2 rest
  | _ => none

/-- The natural number that a text without a sign stands for. -/
def natural? (text : List Char) : Option Nat := marked? text <|> digits? 10 text

def integer? (text : List Char) : Option Int :=
  if isZeroPadded text then none
  else
    match text with
    | '-' :: rest => (natural? rest).map fun n => -(n : Int)
    | '+' :: rest => (natural? rest).map fun n => (n : Int)
    | rest => (natural? rest).map fun n => (n : Int)

/-- Whole digits, an optional fraction and an optional power of ten, with one digit at least. -/
def decimal? (text : List Char) : Option (Nat × Int) := do
  let whole := text.takeWhile Char.isDigit
  let rest := text.dropWhile Char.isDigit
  let (fraction, rest) :=
    match rest with
    | '.' :: rest => (rest.takeWhile Char.isDigit, rest.dropWhile Char.isDigit)
    | rest => ([], rest)
  let digits ← digits? 10 (whole ++ fraction)
  let power ← match rest with
    | [] => some 0
    | e :: rest =>
      if e = 'e' ∨ e = 'E' then
        match rest with
        | '+' :: rest => (digits? 10 rest).map fun n => (n : Int)
        | '-' :: rest => (digits? 10 rest).map fun n => -(n : Int)
        | rest => (digits? 10 rest).map fun n => (n : Int)
      else none
  pure (digits, power - fraction.length)

/-- The finite number that a text with an optional sign stands for. -/
def finite? (text : List Char) : Option Binary64 :=
  let read (negative : Bool) (text : List Char) : Option Binary64 := do
    let (digits, power) ← decimal? text
    Binary64.ofDecimal negative digits power
  match text with
  | '-' :: rest => read true rest
  | '+' :: rest => read false rest
  | rest => read false rest

/-- The floating point number that a text stands for, finite or not. -/
def float? (s : String) : Option Meaning :=
  if [".inf", ".Inf", ".INF", "+.inf", "+.Inf", "+.INF"].contains s then some (.infinity false)
  else if ["-.inf", "-.Inf", "-.INF"].contains s then some (.infinity true)
  else if [".nan", ".NaN", ".NAN"].contains s then some .nan
  else (finite? s.toList).map .float

def ofInteger (n : Int) : Option Meaning :=
  if -(Int.pow 2 63) ≤ n ∧ n < Int.pow 2 64 then some (.int n)
  else if -(Int.pow 2 127) ≤ n ∧ n < Int.pow 2 128 then some (.wide n)
  else none

/-- The meaning of a plain scalar. The empty scalar is null. -/
def meaning (s : String) : Meaning :=
  if s.isEmpty || isNull s then .null
  else
    match bool? s with
    | some b => .bool b
    | none =>
      match (integer? s.toList).bind ofInteger with
      | some number => number
      | none =>
        if isZeroPadded s.toList then .text
        else (float? s).getD .text

end AgentSpec.Yaml
