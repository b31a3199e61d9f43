import RouteRegistrar.Decimal.Binary64

/-!
# Shortest decimals

The text of a number has the fewest digits that read back as that number, and of the decimals with
that many digits the nearest one. It is positional: no exponent is written, however many zeros that
takes, and a whole number has no decimal point.

The decimals that read back lie in an interval around the number, which reaches halfway to its
neighbours. It includes its ends if the mantissa is even. All comparisons are of natural numbers
over one common denominator.
-/

namespace RouteRegistrar

/-- The interval of what rounds to a positive number: the number and both ends, as numerators over
one denominator. -/
structure RoundingInterval where
  low : Nat
  value : Nat
  high : Nat
  denominator : Nat
  /-- Whether the ends round to the number too. -/
  hasEnds : Bool

namespace RoundingInterval

/-- The interval of a mantissa and an exponent. Below a power of two the neighbours are closer. -/
def of (mantissa : Nat) (exponent : Int) : RoundingInterval :=
  let (unit, denominator) := Binary64.ratio 1 (exponent - 2)
  let isClose := mantissa = Nat.pow 2 (Binary64.precision - 1) && exponent ≠ Binary64.minExponent
  { low := (4 * mantissa - (if isClose then 1 else 2)) * unit
    value := 4 * mantissa * unit
    high := (4 * mantissa + 2) * unit
    denominator
    hasEnds := mantissa % 2 = 0 }

/-- The interval in units of `10 ^ power`. -/
def inUnits (i : RoundingInterval) (power : Int) : RoundingInterval :=
  if 0 ≤ power then { i with denominator := i.denominator * Nat.pow 10 power.toNat }
  else
    let scale := Nat.pow 10 (-power).toNat
    { i with low := i.low * scale, value := i.value * scale, high := i.high * scale }

/-- Whether a whole number of units lies in the interval. -/
def contains (i : RoundingInterval) (n : Nat) : Bool :=
  let point := n * i.denominator
  if i.hasEnds then i.low ≤ point && point ≤ i.high else i.low < point && point < i.high

/-- The whole number of units in the interval that is nearest to the number. -/
def nearest? (i : RoundingInterval) : Option Nat :=
  let below := i.value / i.denominator
  let above := below + 1
  let rest := i.value % i.denominator
  let isAbove := i.denominator < 2 * rest || (i.denominator = 2 * rest && below % 2 = 1)
  let candidates := if isAbove then [above, below] else [below, above]
  candidates.find? i.contains

/-- The number of digits in front of the decimal point: the least `k` with a value below
`10 ^ k`. -/
def magnitude (i : RoundingInterval) : Int :=
  let guess : Int := ((i.value.log2 : Int) - (i.denominator.log2 : Int)) * 30103 / 100000
  let isBelow (k : Int) : Bool :=
    let scaled := i.inUnits k
    scaled.value < scaled.denominator
  (([-1, 0, 1, 2].map (guess + ·)).find? isBelow).getD (guess + 3)

/-- The fewest digits, tried from `count` digits on, as a whole number and a power of ten. -/
def shortestFrom (i : RoundingInterval) (magnitude : Int) (count : Nat) : Nat → Nat × Int
  | 0 => (0, 0)
  | fuel + 1 =>
    let power := magnitude - count
    match (i.inUnits power).nearest? with
    | some digits => (digits, power)
    | none => shortestFrom i magnitude (count + 1) fuel

/-- The fewest digits. Seventeen of them always suffice. -/
def shortest (i : RoundingInterval) : Nat × Int := i.shortestFrom i.magnitude 1 18

end RoundingInterval

namespace Binary64

/-- The positional text of `digits · 10 ^ power`. -/
def positional (digits : Nat) (power : Int) : String :=
  if 0 ≤ power then toString (digits * Nat.pow 10 power.toNat)
  else
    let places := (-power).toNat
    let whole := toString (digits / Nat.pow 10 places)
    let fraction := (toString (digits % Nat.pow 10 places)).toList
    let padded := List.replicate (places - fraction.length) '0' ++ fraction
    let trimmed := (padded.reverse.dropWhile (· = '0')).reverse
    if trimmed.isEmpty then whole else whole ++ "." ++ String.ofList trimmed

/-- The text of a number. -/
def text : Binary64 → String
  | .notANumber => "NaN"
  | .infinite isNegative => if isNegative then "-inf" else "inf"
  | .finite isNegative mantissa exponent =>
    let sign := if isNegative then "-" else ""
    if mantissa = 0 then sign ++ "0"
    else
      let (digits, power) := (RoundingInterval.of mantissa exponent).shortest
      sign ++ positional digits power

end Binary64

end RouteRegistrar
