/-! Finite binary64 numbers with exact rounding, over natural numbers only. -/
namespace AgentSpec

/--
A finite binary64 number, `significand * 2 ^ exponent` with a sign. Values made here keep the
significand below `2 ^ 53` and the exponent from `-1074` to `971`, and the significand is at least
`2 ^ 52` unless the exponent is the least.
-/
structure Binary64 where
  negative : Bool
  significand : Nat
  exponent : Int
deriving DecidableEq

/-- The quotient rounded to the nearest natural number, ties to the even one. -/
def roundQuotient (num den : Nat) : Nat :=
  let whole := num / den
  let twice := 2 * (num % den)
  if twice < den ∨ (twice = den ∧ whole % 2 = 0) then whole else whole + 1

namespace Binary64

def leastExponent : Int := -1074

def greatestExponent : Int := 971

def zero (negative : Bool) : Binary64 := ⟨negative, 0, leastExponent⟩

/-- `num / den` as a pair with a power of two multiplied in. -/
def scale (num den : Nat) (power : Int) : Nat × Nat :=
  if 0 ≤ power then (num * Nat.pow 2 power.toNat, den) else (num, den * Nat.pow 2 (-power).toNat)

/-- The greatest `e` with `2 ^ e ≤ num / den`, for positive operands. -/
def binaryExponent (num den : Nat) : Int :=
  let guess := (num.log2 : Int) - (den.log2 : Int)
  let (a, b) := scale num den (-guess)
  if a < b then guess - 1 else guess

/-- The nearest binary64 number to `num / den`, ties to even; `none` on overflow. -/
def ofRatio (negative : Bool) (num den : Nat) : Option Binary64 :=
  if num = 0 then some (zero negative)
  else
    let exponent := max (binaryExponent num den - 52) leastExponent
    let (a, b) := scale num den (-exponent)
    let rounded := roundQuotient a b
    let (significand, exponent) :=
      if rounded = Nat.pow 2 53 then (Nat.pow 2 52, exponent + 1) else (rounded, exponent)
    if greatestExponent < exponent then none else some ⟨negative, significand, exponent⟩

/-- Number of decimal digits; one for zero. -/
def digitCount (n : Nat) : Nat := (Nat.toDigits 10 n).length

/-- The nearest binary64 number to `digits * 10 ^ power`; `none` on overflow. -/
def ofDecimal (negative : Bool) (digits : Nat) (power : Int) : Option Binary64 :=
  let size := (digitCount digits : Int) + power
  if digits = 0 ∨ size < -330 then some (zero negative)
  else if 310 < size then none
  else if 0 ≤ power then ofRatio negative (digits * Nat.pow 10 power.toNat) 1
  else ofRatio negative digits (Nat.pow 10 (-power).toNat)

end Binary64

end AgentSpec
