import RouteRegistrar.Text.CharClass

/-!
# Numbers

The parts of a numeric literal: an integer has a value and a suffix, anything else has a fraction or
an exponent. A member of a tuple is an integer without suffix.
-/

namespace RouteRegistrar.Number

open Text

/-- Whether an exponent follows its letter. -/
def startsExponent : List Char → Bool
  | [] => false
  | c :: rest => if c = '_' then startsExponent rest else isDigit c || c = '+' || c = '-'

/-- Whether a decimal number turns out to be none of the integers at a character. -/
def leavesIntegers (c : Char) (rest : List Char) : Bool :=
  c = '.' || ((c = 'e' || c = 'E') && startsExponent rest)

/-- The value of a digit, where letters count in bases beyond ten only. -/
def digit? (base : Nat) (c : Char) : Option Nat :=
  if isDigit c || base > 10 then hexValue? c else none

/-- Reads the digits of an integer up to its suffix. -/
def digits (base value : Nat) (hasDigit : Bool) : List Char → Option (Nat × List Char)
  | [] => if hasDigit then some (value, []) else none
  | c :: rest =>
    if c = '_' then digits base value hasDigit rest
    else if base = 10 && leavesIntegers c rest then none
    else
      match digit? base c with
      | some d => if d < base then digits base (value * base + d) true rest else none
      | none => if hasDigit && isIdentifier (c :: rest) then some (value, c :: rest) else none

/-- The value and the suffix of an integer literal. -/
def integer? (text : String) : Option (Nat × List Char) :=
  match text.toList with
  | '0' :: 'x' :: rest => digits 16 0 false rest
  | '0' :: 'o' :: rest => digits 8 0 false rest
  | '0' :: 'b' :: rest => digits 2 0 false rest
  | c :: rest => if isDigit c then digits 10 0 false (c :: rest) else none
  | [] => none

/-- The position that an integer names as a member of a tuple. -/
def position? (text : String) : Option Nat :=
  match integer? text with
  | some (value, []) => if value < UInt32.size then some value else none
  | _ => none

/-- Whether a literal is a number with a fraction or an exponent. -/
def isFractional (text : String) : Bool :=
  text.toList.head?.any isDigit && (integer? text).isNone

/-- The positions that a fractional literal names where members of tuples are expected, and whether
its point is still open: `0.1` names two members, `0.` one member and what follows the point. -/
def positions? (text : String) : Option (List Nat × Bool) :=
  let parts := splitOn '.' text.toList
  let isOpen : Bool := parts.getLast? = some []
  let closed := if isOpen then parts.dropLast else parts
  (closed.mapM fun part => position? (String.ofList part)).map (·, isOpen)

end RouteRegistrar.Number
