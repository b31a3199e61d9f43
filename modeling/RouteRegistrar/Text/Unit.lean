import RouteRegistrar.Text.CharClass

/-!
# Units of sixteen bits

Some formats write a character by one unit of sixteen bits, or by a pair of them if its code point
does not fit into one. Each unit of a pair holds ten bits.
-/

namespace RouteRegistrar.Text

/-- Whether a unit begins a pair. -/
def isLeadingUnit (unit : Nat) : Bool := 0xd800 ≤ unit && unit < 0xdc00

/-- Whether a unit ends a pair. -/
def isTrailingUnit (unit : Nat) : Bool := 0xdc00 ≤ unit && unit < 0xe000

/-- The twenty bits that a pair of units holds. -/
def pairBits? (leading trailing : Nat) : Option Nat :=
  if isLeadingUnit leading && isTrailingUnit trailing then
    some ((leading - 0xd800) * 0x400 + (trailing - 0xdc00))
  else none

/-- The character of a pair of units. -/
def charOfPair? (leading trailing : Nat) : Option Char :=
  (pairBits? leading trailing).bind fun bits => charOfCode? (bits + 0x10000)

end RouteRegistrar.Text
