import RouteRegistrar.Decimal.Binary64
import RouteRegistrar.Text.CaseMap
import RouteRegistrar.Text.CharClass

/-!
# Reading decimals

A decimal has an optional sign, digits with at most one point among them, and an optional exponent.
There has to be a digit before or behind the point. `inf`, `infinity` and `nan`, in any case, stand
for what is not finite. The result is the nearest number.
-/

namespace RouteRegistrar.Decimal

open Text

/-- The number that a text of decimal digits stands for. -/
def ofDigits (digits : List Char) : Nat :=
  digits.foldl (fun n c => n * 10 + (c.toNat - '0'.toNat)) 0

/-- The number that a text of digits in a base of at most sixteen stands for. -/
def ofDigitsIn (base : Nat) (digits : List Char) : Option Nat :=
  digits.foldlM (fun n c => do
    let d ← hexValue? c
    if d < base then some (n * base + d) else none) 0

/-- Splits a sign off. Says whether it is a minus. -/
def splitSign : List Char → Bool × List Char
  | '-' :: rest => (true, rest)
  | '+' :: rest => (false, rest)
  | cs => (false, cs)

/-- The value of an exponent with its letter; an absent one is zero. -/
def exponent? : List Char → Option Int
  | [] => some 0
  | letter :: rest =>
    let (isNegative, digits) := splitSign rest
    if (letter = 'e' || letter = 'E') && !digits.isEmpty && digits.all isDigit then
      some (if isNegative then -(ofDigits digits) else ofDigits digits)
    else none

/-- The number that a text without sign stands for. -/
def magnitude? (isNegative : Bool) (cs : List Char) : Option Binary64 :=
  let name := lowerAscii (String.ofList cs)
  if name = "inf" || name = "infinity" then some (.infinite isNegative)
  else if name = "nan" then some .notANumber
  else
    let whole := cs.takeWhile isDigit
    let behind := cs.dropWhile isDigit
    let (fraction, rest) := match behind with
      | '.' :: more => (more.takeWhile isDigit, more.dropWhile isDigit)
      | _ => ([], behind)
    if whole.isEmpty && fraction.isEmpty then none
    else (exponent? rest).map fun exponent =>
      .ofDecimal isNegative (ofDigits (whole ++ fraction)) (exponent - fraction.length)

/-- The number that a text stands for. -/
def ofText? (cs : List Char) : Option Binary64 :=
  let (isNegative, rest) := splitSign cs
  magnitude? isNegative rest

/-- The smallest number of 64 bits with a sign. -/
def minInteger : Int := -0x8000000000000000

/-- The largest number of 64 bits with a sign. -/
def maxInteger : Int := 0x7fffffffffffffff

/-- A number, if it fits into 64 bits with a sign. -/
def fitting? (n : Int) : Option Int := if minInteger ≤ n && n ≤ maxInteger then some n else none

/-- The integer of 64 bits that digits in a base, with an optional sign in front, stand for. -/
def integerIn? (base : Nat) (cs : List Char) : Option Int :=
  let (isNegative, digits) := splitSign cs
  if digits.isEmpty then none
  else (ofDigitsIn base digits).bind fun n => fitting? (if isNegative then -(n : Int) else n)

/-- The integer of 64 bits that a decimal text stands for. -/
def integer? (cs : List Char) : Option Int := integerIn? 10 cs

end RouteRegistrar.Decimal
