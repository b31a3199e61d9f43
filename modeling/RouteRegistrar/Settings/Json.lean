import RouteRegistrar.Settings.Reader
import RouteRegistrar.Text.Unit

/-!
# JSON documents

The strict format: one value between blanks, nothing behind it, and containers within at most 127
others. Of two members with one name the later one counts.

A whole number of 64 bits is an integer; any other number is read step by step. Its first digits,
as many as fit into 64 bits, are rounded, and then multiplied or divided by a power of ten, which is
rounded again. What grows too large for a number is no JSON.
-/

namespace RouteRegistrar.Settings.Json

open Reader

/-- A character that separates what a document consists of. -/
def isBlank (c : Char) : Bool := c = ' ' || c = '\t' || c = '\n' || c = '\r'

/-- Takes blanks. -/
def blanks : Reader Unit := do discard (run isBlank)

/-! ## Numbers -/

/-- The largest number of 64 bits. -/
def maxSignificand : Nat := UInt64.size - 1

/-- Appends digits to a number while it fits into 64 bits. Also counts the digits behind. -/
def appendWhole (n : Nat) : List Char → Nat × Nat
  | [] => (n, 0)
  | c :: rest =>
    let longer := Decimal.ofDigits [c] + n * 10
    if maxSignificand < longer then (n, rest.length + 1) else appendWhole longer rest

/-- Appends digits to a number while it fits into 64 bits. Also counts the digits that were
appended. -/
def appendFraction (n count : Nat) : List Char → Nat × Nat
  | [] => (n, count)
  | c :: rest =>
    let longer := Decimal.ofDigits [c] + n * 10
    if maxSignificand < longer then (n, count) else appendFraction longer (count + 1) rest

/-- A number as it is written. -/
structure Numeral where
  isNegative : Bool
  whole : List Char
  fraction : Option (List Char)
  exponent : Option Int

/-- Takes the digits of an exponent, with their sign. -/
def exponent : Reader Int := do
  discard (one fun c => c = 'e' || c = 'E')
  let isNegative ← took (char '-')
  if !isNegative then discard (optional? (char '+'))
  let digits ← run1 Text.isDigit
  let n : Int := Decimal.ofDigits digits
  return if isNegative then -n else n

/-- Takes a number. A zero in front is the only digit in front of the point. -/
def numeral : Reader Numeral := do
  let isNegative ← took (char '-')
  let whole ← run1 Text.isDigit
  if whole.head? = some '0' && whole.length > 1 then failure
  let fraction ← optional? (char '.' *> run Text.isDigit)
  if fraction = some [] then failure
  let next ← next?
  if next = some 'e' || next = some 'E' then
    return ⟨isNegative, whole, fraction, some (← exponent)⟩
  return ⟨isNegative, whole, fraction, none⟩

/-- The value of a number. -/
def Numeral.value? (n : Numeral) : Option SettingsValue :=
  let (leading, dropped) := appendWhole 0 n.whole
  let signed (value : Binary64) : SettingsValue :=
    .float (if n.isNegative then value.neg else value)
  let isWhole := n.fraction.isNone && n.exponent.isNone && dropped = 0
  let integer : Int := if n.isNegative then -(leading : Int) else leading
  if isWhole && (Decimal.fitting? integer).isSome && !(n.isNegative && leading = 0) then
    some (.integer integer)
  else
    let (significand, places) := appendFraction leading 0 (n.fraction.getD [])
    let rounded := Binary64.ofRatio false significand 1
    (rounded.scale? (dropped - places + n.exponent.getD 0)).map signed

/-! ## Strings -/

/-- The character that a one-letter escape stands for. -/
def letterEscape? : Char → Option Char
  | '"' => some '"'
  | '\\' => some '\\'
  | '/' => some '/'
  | 'b' => some '\x08'
  | 'f' => some '\x0c'
  | 'n' => some '\n'
  | 'r' => some '\r'
  | 't' => some '\t'
  | _ => none

/-- Takes the code units of a character, behind the first `\u`. -/
def unicodeEscape : Reader Char := do
  let unit ← hexNumber 4
  if Text.isLeadingUnit unit then
    text "\\u"
    Text.charOfPair? unit (← hexNumber 4)
  else charOfCode unit

/-- Takes an escape. -/
def escape : Reader Char := do
  char '\\'
  let c ← any
  if c = 'u' then unicodeEscape
  else
    match letterEscape? c with
    | some meaning => return meaning
    | none => failure

/-- Takes a character that stands for itself. -/
def plain : Reader Char := one fun c => c ≠ '"' && c ≠ '\\' && ' ' ≤ c

/-- Takes a string. -/
def string : Reader String := do
  char '"'
  let content ← many (plain <|> escape)
  char '"'
  return String.ofList content

/-! ## Values -/

/-- Takes a member of an object. -/
def member (value : Reader SettingsValue) : Reader (String × SettingsValue) := do
  let name ← string
  blanks
  char ':'
  blanks
  return (name, ← value)

/-- Takes a word. -/
def word (spelling : String) (value : SettingsValue) : Reader SettingsValue := do
  text spelling
  return value

/-- Takes a value that is no container. -/
def scalar : Reader SettingsValue := do
  match ← next? with
  | some '"' => return .text (← string)
  | some 'n' => word "null" .null
  | some 't' => word "true" (.boolean true)
  | some 'f' => word "false" (.boolean false)
  | _ =>
    match (← numeral).value? with
    | some value => return value
    | none => failure

/-- Takes a value with containers up to a depth. -/
def valueWithin : Nat → Reader SettingsValue
  | 0 => scalar
  | depth + 1 => do
    match ← next? with
    | some '[' => return .list (← enclosed '[' ']' blanks false (valueWithin depth))
    | some '\x7b' =>
      let members ← enclosed '\x7b' '\x7d' blanks false (member (valueWithin depth))
      return .table (SettingsTable.ofEntries members)
    | _ => scalar

/-- How deep containers may be nested. -/
def maxDepth : Nat := 127

/-- The value of a document. -/
def document? (source : String) : Option SettingsValue :=
  (do blanks; let value ← valueWithin maxDepth; blanks; return value : Reader _).whole? source

end RouteRegistrar.Settings.Json
