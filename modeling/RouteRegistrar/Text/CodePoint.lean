/-!
# Tables of code points

A character class is stored as a table of closed ranges in ascending order. A look-up stops at the
first range that begins behind the character.
-/

namespace RouteRegistrar.Text

/-- Closed ranges of code points in ascending order. -/
abbrev Ranges := List (Nat × Nat)

/-- Whether a code point lies in one of the ranges. -/
def Ranges.contains : Ranges → Nat → Bool
  | [], _ => false
  | (first, last) :: rest, code =>
    if code < first then false else code ≤ last || Ranges.contains rest code

@[simp] theorem Ranges.contains_nil (code : Nat) : Ranges.contains [] code = false := rfl

end RouteRegistrar.Text
