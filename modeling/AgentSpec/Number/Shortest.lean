import AgentSpec.Number.Binary64

/-! The fewest decimal digits that read back as a given binary64 number. -/
namespace AgentSpec

/-- The decimal number `digits * 10 ^ power`. -/
structure Decimal where
  digits : Nat
  power : Int
deriving DecidableEq

namespace Decimal

/-- Trailing zeros of the digits moved into the power, at most `fuel` of them. -/
def strip : Nat → Decimal → Decimal
  | 0, d => d
  | fuel + 1, d =>
    if d.digits ≠ 0 ∧ d.digits % 10 = 0 then strip fuel ⟨d.digits / 10, d.power + 1⟩ else d

end Decimal

namespace Binary64

/-- The magnitude `significand * 2 ^ exponent` as a ratio of natural numbers. -/
def ratio (x : Binary64) : Nat × Nat := scale x.significand 1 x.exponent

/--
The interval of reals that round to `x`, as numerators over the common denominator
`4 * (ratio x).2`: its lower end and its upper end. Half a unit lies on either side, except that
the gap below a power of two is half as wide.
-/
def roundingInterval (x : Binary64) : Nat × Nat :=
  let (num, _) := x.ratio
  let unit := num / x.significand
  let below :=
    if x.significand = Nat.pow 2 52 ∧ leastExponent < x.exponent then unit else 2 * unit
  (4 * num - below, 4 * num + 2 * unit)

/-- Whether the decimal `digits * 10 ^ power` rounds to `x`. -/
def isReadBackFrom (x : Binary64) (d : Decimal) : Bool :=
  let (_, den) := x.ratio
  let (low, high) := x.roundingInterval
  let (a, b) := if 0 ≤ d.power then (d.digits * Nat.pow 10 d.power.toNat, 1)
    else (d.digits, Nat.pow 10 (-d.power).toNat)
  let value := a * (4 * den)
  if x.significand % 2 = 0 then low * b ≤ value && value ≤ high * b
  else low * b < value && value < high * b

/-- `num / den` in units of `10 ^ power`. -/
def inUnits (num den : Nat) (power : Int) : Nat × Nat :=
  if 0 ≤ power then (num, den * Nat.pow 10 power.toNat) else (num * Nat.pow 10 (-power).toNat, den)

/-- The greatest `k` with `10 ^ k ≤ x`, for `x` other than zero. -/
def decimalExponent (x : Binary64) : Int :=
  let (num, den) := x.ratio
  let guess := binaryExponent num den * 30103 / 100000
  let reaches (k : Int) : Bool := let (a, b) := inUnits num den k; b ≤ a
  if reaches (guess + 1) then guess + 1 else if reaches guess then guess else guess - 1

/-- The better of the two neighbours of `x` with `count` digits, if one of them reads back. -/
def neighbour (x : Binary64) (count : Nat) : Option Decimal :=
  let (num, den) := x.ratio
  let power := decimalExponent x - ((count : Int) - 1)
  let (a, b) := inUnits num den power
  let low : Decimal := ⟨a / b, power⟩
  let high : Decimal := ⟨a / b + 1, power⟩
  match x.isReadBackFrom low, x.isReadBackFrom high with
  | true, true => some (if roundQuotient a b = a / b then low else high)
  | true, false => some low
  | false, true => some high
  | false, false => none

/-- The fewest digits that read back as `x`, and of those the nearest; seventeen always do. -/
def shortest (x : Binary64) : Decimal :=
  if x.significand = 0 then ⟨0, 0⟩
  else
    match (List.range 17).findSome? fun n => neighbour x (n + 1) with
    | some d => d.strip 17
    | none => ⟨0, 0⟩

end Binary64

end AgentSpec
