import AgentSpec.Number.Shortest

/-! How a decimal number is laid out as text. -/
namespace AgentSpec

/-- The choices of a format that writes binary64 numbers. -/
structure NumberLayout where
  /-- The least power of ten of the first digit that is still written with leading zeros. -/
  leastPositional : Int
  /-- The greatest power of ten of the first digit that is still written in full. -/
  greatestPositional : Int
  /-- What stands before the digits of a power that is not negative. -/
  positiveMark : String
deriving DecidableEq

namespace NumberLayout

def zeros (count : Nat) : String := String.ofList (List.replicate count '0')

/-- A nonnegative decimal number: in full, with one fraction digit at least, or with a power. -/
def renderDecimal (layout : NumberLayout) (d : Decimal) : String :=
  let digits := Nat.toDigits 10 d.digits
  let leading := (digits.length : Int) - 1 + d.power
  if leading < layout.leastPositional ∨ layout.greatestPositional < leading then
    let mark := if leading < 0 then "-" else layout.positiveMark
    let fraction := digits.drop 1
    String.ofList (digits.take 1) ++
      (if fraction.isEmpty then "" else "." ++ String.ofList fraction) ++
      "e" ++ mark ++ toString leading.natAbs
  else if leading < 0 then
    "0." ++ zeros (leading.natAbs - 1) ++ String.ofList digits
  else
    let whole := leading.toNat + 1
    let fraction := digits.drop whole
    String.ofList (digits.take whole) ++ zeros (whole - digits.length) ++ "." ++
      (if fraction.isEmpty then "0" else String.ofList fraction)

/-- The shortest text of a binary64 number that reads back. -/
def render (layout : NumberLayout) (x : Binary64) : String :=
  (if x.negative then "-" else "") ++ layout.renderDecimal x.shortest

end NumberLayout

end AgentSpec
