/-
Character classes as tables of closed ranges of code points: control characters (category Cc) and
white space (property White_Space).
-/
import FaultCodes.Text

namespace FaultCodes.Text

/-- whether the code point of `c` lies in one of the closed ranges, which stand in increasing order
-/
def inRanges : List (Nat × Nat) → Char → Bool
  | [], _ => false
  | (low, high) :: ranges, c => if c.toNat ≤ high then low ≤ c.toNat else inRanges ranges c

/-- category Cc: C0, delete and C1 -/
def isControl (c : Char) : Bool :=
  c.toNat < 0x20 || (0x7F ≤ c.toNat && c.toNat ≤ 0x9F)

/-- the White_Space property -/
def blankRanges : List (Nat × Nat) :=
  [(0x09, 0x0D), (0x20, 0x20), (0x85, 0x85), (0xA0, 0xA0), (0x1680, 0x1680), (0x2000, 0x200A),
   (0x2028, 0x2029), (0x202F, 0x202F), (0x205F, 0x205F), (0x3000, 0x3000)]

def isBlank (c : Char) : Bool :=
  inRanges blankRanges c

end FaultCodes.Text
