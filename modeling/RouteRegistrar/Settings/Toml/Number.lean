import RouteRegistrar.Settings.Toml.Token

/-!
# Numbers, dates and times

Integers are written in four bases, decimals with a point or an exponent. A low line may stand
between two digits. A date, a time of day or both are kept as a text; the time may have a distance
to universal time. Numbers and moments begin with a word, and marks between words belong to them.
-/

namespace RouteRegistrar.Settings.Toml

open TokenReader

/-! ## Integers and decimals -/

/-- What may stand in an integer, apart from digits. -/
structure IntegerForm where
  base : Nat
  allowsSign : Bool
  allowsZeros : Bool

/-- Whether a character is a digit in a base. -/
def isDigitIn (base : Nat) (c : Char) : Bool := (Text.hexValue? c).any (· < base)

/-- Whether digits have a zero in front that they do not need. -/
def hasSpareZero (cs : List Char) : Bool :=
  match cs with
  | '0' :: rest => rest.any (· ≠ '_')
  | _ => false

/-- The digits at the beginning of a text, with single low lines between them, and what is left. -/
def digitRun (base : Nat) (isFirst afterLine : Bool) : List Char → List Char × List Char
  | [] => ([], [])
  | c :: rest =>
    if isDigitIn base c || c = '_' && !isFirst && !afterLine then
      let (more, left) := digitRun base false (c = '_') rest
      (c :: more, left)
    else ([], c :: rest)

/-- Splits the digits of an integer, with its sign, off. -/
def splitInteger? (form : IntegerForm) (cs : List Char) : Option (List Char × List Char) :=
  let hasSign := form.allowsSign && (cs.head? = some '+' || cs.head? = some '-')
  let sign := if hasSign then cs.take 1 else []
  let (digits, rest) := digitRun form.base true false (cs.drop sign.length)
  if digits.isEmpty || digits.getLast? = some '_' || !form.allowsZeros && hasSpareZero digits then
    none
  else some (sign ++ digits.filter (· ≠ '_'), rest)

/-- The value of an integer. -/
def integer? (form : IntegerForm) (cs : List Char) : Option Int :=
  match splitInteger? form cs with
  | some (digits, []) => Decimal.integerIn? form.base digits
  | _ => none

/-- Takes the exponent of a decimal behind its letter. Only digits may stand behind a plus that is a
token of its own. -/
def exponent (cs : List Char) : TokenReader (List Char) := do
  let isApart := cs.isEmpty
  if isApart then discard (took .plus)
  let part ← if isApart then word else pure cs
  match splitInteger? ⟨10, !isApart, true⟩ part with
  | some (digits, []) => return 'E' :: digits
  | _ => failure

/-- Takes a decimal whose words before and behind the point are given. It has to be finite. -/
def decimal (cs : List Char) (fraction : Option (List Char)) : TokenReader Binary64 := do
  let (whole, rest) ← splitInteger? ⟨10, true, false⟩ cs
  let (fraction, rest) ← match fraction with
    | some digits => do
      if !rest.isEmpty then failure
      let (digits, rest) ← splitInteger? ⟨10, false, true⟩ digits
      pure ('.' :: digits, rest)
    | none => pure ([], rest)
  let power ← match rest with
    | [] => pure []
    | letter :: rest => if letter = 'e' || letter = 'E' then exponent rest else failure
  let value ← Decimal.ofText? (whole ++ fraction ++ power)
  if value.isFinite then return value else failure

/-- The number that is not finite with a name. -/
def unbounded? : String → Option Binary64
  | "inf" => some (.infinite false)
  | "-inf" => some (.infinite true)
  | "nan" => some .notANumber
  | "-nan" => some .notANumber
  | _ => none

/-- Takes a number that begins with a word. -/
def number (cs : List Char) : TokenReader SettingsValue := do
  let inBase (base : Nat) (digits : List Char) : TokenReader SettingsValue :=
    return .integer (← integer? ⟨base, false, true⟩ digits)
  match cs with
  | '0' :: 'x' :: digits => inBase 16 digits
  | '0' :: 'o' :: digits => inBase 8 digits
  | '0' :: 'b' :: digits => inBase 2 digits
  | _ =>
    if cs.contains 'e' || cs.contains 'E' then return .float (← decimal cs none)
    else if ← took .period then return .float (← decimal cs (some (← word)))
    else
      match unbounded? (String.ofList cs) with
      | some value => return .float value
      | none => return .integer (← integer? ⟨10, true, false⟩ cs)

/-! ## Dates and times -/

section

open Reader

/-- Takes a number of digits. -/
def digits (count : Nat) : Reader (List Char) := exactly Text.isDigit count

/-- Takes a number of two digits up to a limit. -/
def pairUpTo (least limit : Nat) : Reader (List Char) := do
  let taken ← digits 2
  let n := Decimal.ofDigits taken
  if least ≤ n && n ≤ limit then return taken else failure

/-- Takes a date. -/
def date : Reader (List Char) := do
  let year ← digits 4
  char '-'
  let month ← pairUpTo 1 12
  char '-'
  return year ++ ['-'] ++ month ++ ['-'] ++ (← pairUpTo 1 31)

/-- Takes a time of day. Zeros at the end of its fraction do not count. -/
def time : Reader (List Char) := do
  let hour ← pairUpTo 0 24
  char ':'
  let minute ← pairUpTo 0 59
  char ':'
  let second ← pairUpTo 0 59
  let fraction ← if ← Reader.took (char '.') then run1 Text.isDigit else pure []
  let shown := ((fraction.take 9).reverse.dropWhile (· = '0')).reverse
  return hour ++ [':'] ++ minute ++ [':'] ++ second ++ (if shown.isEmpty then [] else '.' :: shown)

/-- Takes the distance to universal time. A distance of zero hours is never negative. -/
def zone : Reader (List Char) := do
  let sign ← any
  if sign = 'Z' || sign = 'z' then return ['Z']
  if sign ≠ '+' && sign ≠ '-' then failure
  let hour ← digits 2
  char ':'
  let minute ← digits 2
  let sign := if Decimal.ofDigits hour = 0 then '+' else sign
  return [sign] ++ hour ++ [':'] ++ minute

/-- Takes a time of day, or a date with or without one and with or without a distance to universal
time. -/
def moment : Reader String := do
  if (← rest)[2]? = some ':' then return String.ofList (← time)
  let day ← date
  let hasTime ← Reader.took (discard (one fun c => c = 'T' || c = 't' || c = ' '))
  let clock ← if hasTime then time else pure []
  let offset ← if (← next?).isSome then zone else pure []
  return String.ofList (day ++ (if hasTime then ['T'] else []) ++ clock ++ offset)

end

/-- The characters of a token that may stand in a moment. -/
def Token.content : Token → List Char
  | .word content => content
  | .blank content => content
  | .colon => [':']
  | .plus => ['+']
  | .period => ['.']
  | _ => []

/-- Takes a word behind a mark, if the mark is there. -/
def wordBehind (mark : Token) : TokenReader (List Char) := do
  if ← took mark then return mark.content ++ (← word) else return []

/-- Takes the words and marks of a moment, whose first word is given. A blank may stand between a
date and a time. -/
def momentText (first : List Char) (hasColon : Bool) : TokenReader (List Char) := do
  let hour ← (fun tokens => match tokens with
    | .blank [' '] :: .word hour :: rest => some (' ' :: hour, rest)
    | _ => some ([], tokens))
  if hasColon || (← took .colon) then
    let minute ← word
    expect .colon
    let second ← word
    let fraction ← wordBehind .period
    let zone := (← wordBehind .plus) ++ (← wordBehind .colon)
    let clock := minute ++ [':'] ++ second ++ fraction
    return if hasColon then first ++ [':'] ++ hour ++ clock ++ zone
      else first ++ hour ++ [':'] ++ clock ++ zone
  else return first ++ hour

/-- Takes a moment. -/
def momentValue (first : List Char) (hasColon : Bool) : TokenReader SettingsValue := do
  return .text (← moment.whole? (String.ofList (← momentText first hasColon)))

/-- Whether a word begins a moment. -/
def beginsMoment (cs : List Char) : Bool :=
  let hasExponent (letter : Char) : Bool := (cs.zip (cs.drop 1)).contains (letter, '-')
  cs.contains 'T' || cs.contains 't' ||
    (cs.drop 1).contains '-' && !hasExponent 'e' && !hasExponent 'E'

/-- Takes a number or a moment that begins with a word. -/
def numberOrMoment (cs : List Char) : TokenReader SettingsValue := do
  if beginsMoment cs then momentValue cs false
  else if ← took .colon then momentValue cs true
  else number cs

end RouteRegistrar.Settings.Toml
