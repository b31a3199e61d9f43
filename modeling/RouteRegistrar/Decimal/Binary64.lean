/-!
# Binary numbers of double precision

A finite number is `±mantissa · 2 ^ exponent` with a mantissa below `2 ^ 53`. Everything is exact
arithmetic on natural numbers: `ofRatio` rounds a quotient once, to the nearest number and to the
even mantissa of two equally near ones, and multiplication and division round their exact result.
-/

namespace RouteRegistrar

/-- A number of double precision. -/
inductive Binary64 where
  | finite (isNegative : Bool) (mantissa : Nat) (exponent : Int)
  | infinite (isNegative : Bool)
  | notANumber
  deriving DecidableEq, Repr

namespace Binary64

/-- The number of bits of a mantissa. -/
def precision : Nat := 53

/-- The exponent of the smallest numbers. -/
def minExponent : Int := -1074

/-- The exponent of the largest numbers. -/
def maxExponent : Int := 971

/-- Whether a number is zero of either sign. -/
def isZero : Binary64 → Bool
  | .finite _ m _ => m = 0
  | _ => false

/-- Whether a number is finite. -/
def isFinite : Binary64 → Bool
  | .finite .. => true
  | _ => false

/-- Zero with a sign. -/
def zero (isNegative : Bool) : Binary64 := .finite isNegative 0 minExponent

/-- A quotient rounded to the nearest natural number, a half to the even one. -/
def roundQuotient (numerator denominator : Nat) : Nat :=
  let quotient := numerator / denominator
  let twice := 2 * (numerator % denominator)
  if twice < denominator then quotient
  else if denominator < twice then quotient + 1
  else quotient + quotient % 2

/-- The quotient `numerator / denominator` in units of `2 ^ exponent`, as another quotient. -/
def inUnits (numerator denominator : Nat) (exponent : Int) : Nat × Nat :=
  if 0 ≤ exponent then (numerator, denominator * Nat.pow 2 exponent.toNat)
  else (numerator * Nat.pow 2 (-exponent).toNat, denominator)

/-- The exponent at which a quotient has a mantissa of full precision, or the smallest one. -/
def exponentFor (numerator denominator : Nat) : Int :=
  let guess : Int := (numerator.log2 : Int) - (denominator.log2 : Int) - precision
  let (n, d) := inUnits numerator denominator guess
  max minExponent (if Nat.pow 2 precision ≤ n / d then guess + 1 else guess)

/-- The number nearest to `±numerator / denominator`. -/
def ofRatio (isNegative : Bool) (numerator denominator : Nat) : Binary64 :=
  if numerator = 0 then zero isNegative
  else
    let exponent := exponentFor numerator denominator
    let (n, d) := inUnits numerator denominator exponent
    let rounded := roundQuotient n d
    let (mantissa, exponent) :=
      if rounded = Nat.pow 2 precision then (Nat.pow 2 (precision - 1), exponent + 1)
      else (rounded, exponent)
    if maxExponent < exponent then .infinite isNegative else .finite isNegative mantissa exponent

/-- The number nearest to `±digits · 10 ^ exponent`. All numbers lie between `10 ^ -324` and
`10 ^ 309`, so that no larger power of ten is ever computed. -/
def ofDecimal (isNegative : Bool) (digits : Nat) (exponent : Int) : Binary64 :=
  let magnitude := exponent + (toString digits).length
  if digits = 0 || magnitude < -330 then zero isNegative
  else if 310 < magnitude then .infinite isNegative
  else if 0 ≤ exponent then ofRatio isNegative (digits * Nat.pow 10 exponent.toNat) 1
  else ofRatio isNegative digits (Nat.pow 10 (-exponent).toNat)

/-- The quotient that a mantissa and an exponent stand for. -/
def ratio (mantissa : Nat) (exponent : Int) : Nat × Nat :=
  if 0 ≤ exponent then (mantissa * Nat.pow 2 exponent.toNat, 1)
  else (mantissa, Nat.pow 2 (-exponent).toNat)

/-- The product with a power of ten, which is itself rounded first. -/
def scaleUp (value : Binary64) (power : Nat) : Binary64 :=
  match value, ofRatio false (Nat.pow 10 power) 1 with
  | .finite isNegative m e, .finite _ m' e' =>
    let (n, d) := ratio (m * m') (e + e')
    ofRatio isNegative n d
  | _, _ => value

/-- The quotient by a power of ten, which is itself rounded first. -/
def scaleDown (value : Binary64) (power : Nat) : Binary64 :=
  match value, ofRatio false (Nat.pow 10 power) 1 with
  | .finite isNegative m e, .finite _ m' e' =>
    let (n, d) := ratio m (e - e')
    ofRatio isNegative n (d * m')
  | _, _ => value

/-- The product with a power of ten of any exponent, in steps of at most `10 ^ 308`, each of them
rounded. There is none if a step leaves the finite numbers. -/
def scale? (value : Binary64) (exponent : Int) : Option Binary64 :=
  if 308 < exponent then if value.isZero then some value else none
  else if 0 ≤ exponent then
    let scaled := value.scaleUp exponent.toNat
    if scaled.isFinite then some scaled else none
  else if -308 ≤ exponent then some (value.scaleDown (-exponent).toNat)
  else if value.isZero then some value
  else scale? (value.scaleDown 308) (exponent + 308)
termination_by (-exponent).toNat

/-- The number of the other sign. -/
def neg : Binary64 → Binary64
  | .finite isNegative m e => .finite (!isNegative) m e
  | .infinite isNegative => .infinite (!isNegative)
  | .notANumber => .notANumber

end Binary64

end RouteRegistrar
