/-! White space in the sense of Unicode. -/
namespace AgentSpec.Text

/-- The characters with the property White_Space, as inclusive ranges of code points. -/
def blankRanges : List (Nat × Nat) :=
  [(0x9, 0xD), (0x20, 0x20), (0x85, 0x85), (0xA0, 0xA0), (0x1680, 0x1680), (0x2000, 0x200A),
   (0x2028, 0x2029), (0x202F, 0x202F), (0x205F, 0x205F), (0x3000, 0x3000)]

/-- Whether a code point lies in one of some inclusive ranges. -/
def inRanges (ranges : List (Nat × Nat)) (code : Nat) : Bool :=
  ranges.any fun (low, high) => low ≤ code && code ≤ high

/-- White space is what has the Unicode property White_Space. -/
def isBlank (c : Char) : Bool := inRanges blankRanges c.toNat

def allBlank (s : String) : Bool := s.toList.all isBlank

end AgentSpec.Text
