import RouteRegistrar.Settings.Reader
import RouteRegistrar.Text.Table.Diacritic
import RouteRegistrar.Text.Unit

/-!
# Relaxed JSON documents

The format with comments, commas behind last elements, names without quotes, single quotes, line
breaks in strings behind a backslash, and more ways to write numbers. A number without point and
exponent is an integer and has to fit into 64 bits. The document has to be an object.
-/

namespace RouteRegistrar.Settings.Json5

open Reader

/-! ## Between values -/

/-- A character that ends a line. -/
def endsLine (c : Char) : Bool := c = '\n' || c = '\r' || c = '\u2028' || c = '\u2029'

/-- A character that separates what a document consists of. -/
def isBlank (c : Char) : Bool := c = '\ufeff' || (Text.isBlank c && c ≠ '\u0085')

/-- Takes a comment. -/
def comment : Reader Unit := do
  char '/'
  if ← took (char '/') then discard (run (!endsLine ·))
  else
    char '*'
    discard (many (do if ← took (text "*/") then failure else any))
    text "*/"

/-- Takes blanks and comments. -/
def gap : Reader Unit := do discard (many (discard (run1 isBlank) <|> comment))

/-! ## Strings -/

/-- A part of a text: a character, or a unit of one. -/
inductive TextPart where
  | char (c : Char)
  | unit (code : Nat)
  deriving DecidableEq, Repr

/-- The character of a pair of units. The bit behind the twenty bits of the pair is always set. -/
def charOfPair? (leading trailing : Nat) : Option Char :=
  (Text.pairBits? leading trailing).bind fun bits => Text.charOfCode? (bits ||| 0x10000)

/-- The text of some parts. Every unit that begins or ends a pair has to be in one. -/
def textOf? : List TextPart → Option (List Char)
  | [] => some []
  | .char c :: rest => (textOf? rest).map (c :: ·)
  | .unit code :: rest =>
    match Text.charOfCode? code with
    | some c => (textOf? rest).map (c :: ·)
    | none =>
      match rest with
      | .unit next :: more => do return (← charOfPair? code next) :: (← textOf? more)
      | _ => none

/-- The character that a one-letter escape stands for; other characters stand for themselves. -/
def letterMeaning : Char → Char
  | 'b' => '\x08'
  | 'f' => '\x0c'
  | 'n' => '\n'
  | 'r' => '\r'
  | 't' => '\t'
  | 'v' => '\x0b'
  | '0' => '\x00'
  | c => c

/-- Takes an escape. A line break behind a backslash is nothing. -/
def escape : Reader (List TextPart) := do
  char '\\'
  if ← took (text "\r\n") then return []
  let c ← any
  if endsLine c then return []
  if c = 'x' then return [.char (← charOfCode (← hexNumber 2))]
  if c = 'u' then return [.unit (← hexNumber 4)]
  if '1' ≤ c && c ≤ '9' then failure
  return [.char (letterMeaning c)]

/-- The text of some parts. -/
def joined (parts : List TextPart) : Reader String := do
  return String.ofList (← textOf? parts)

/-- Takes a string between two quotes. -/
def quoted (quote : Char) : Reader String := do
  char quote
  let plain := one fun c => c ≠ quote && c ≠ '\\' && !endsLine c
  let content ← many ((fun c => [.char c]) <$> plain <|> escape)
  char quote
  joined content.flatten

/-- Takes a string. -/
def string : Reader String := quoted '"' <|> quoted '\''

/-! ## Names and numbers -/

/-- Letters that begin no identifier. -/
def otherLetters : Text.Ranges := [
  (0x24, 0x24), (0x5f, 0x5f), (0x37a, 0x37a), (0xe33, 0xe33), (0xeb3, 0xeb3), (0x2e2f, 0x2e2f),
  (0xfc5e, 0xfc63), (0xfdfa, 0xfdfb), (0xfe70, 0xfe70), (0xfe72, 0xfe72), (0xfe74, 0xfe74),
  (0xfe76, 0xfe76), (0xfe78, 0xfe78), (0xfe7a, 0xfe7a), (0xfe7c, 0xfe7c), (0xfe7e, 0xfe7e),
  (0xff9e, 0xff9f)]

/-- What begins an identifier without being a letter. -/
def nonLetters : Text.Ranges := [(0x1885, 0x1886), (0x2118, 0x2118), (0x212e, 0x212e)]

/-- A character that may begin a name: a letter, a dollar sign or a low line. -/
def startsName (c : Char) : Bool :=
  otherLetters.contains c.toNat || Text.isIdStart c && !nonLetters.contains c.toNat

/-- A character that may continue a name: one that may begin it, a digit, a diacritic, a mark that
takes no space, or one that joins. -/
def continuesName (c : Char) : Bool :=
  startsName c || Text.Table.diacritics.contains c.toNat || c = '\u200c' || c = '\u200d' ||
    Text.isIdContinue c && !Text.Table.spacingMarks.contains c.toNat &&
      !([0x2118, 0x212e].contains c.toNat)

/-- Takes an escape in a name. -/
def nameEscape : Reader TextPart := do
  text "\\u"
  return .unit (← hexNumber 4)

/-- Takes a name without quotes. -/
def name : Reader String := do
  let first ← (TextPart.char <$> one startsName) <|> nameEscape
  joined (first :: (← many ((TextPart.char <$> one continuesName) <|> nameEscape)))

/-- A character that a number may consist of. -/
def isNumberChar (c : Char) : Bool := c.isAlphanum || c = '.' || c = '+' || c = '-'

/-- The value of a number without point and exponent. -/
def integer? (cs : List Char) : Option SettingsValue :=
  match cs with
  | '0' :: x :: digits =>
    if x = 'x' || x = 'X' then
      (Decimal.ofDigitsIn 16 digits).bind fun n =>
        if n < UInt32.size && !digits.isEmpty then some (.integer n) else none
    else none
  | _ => (Decimal.integer? cs).map .integer

/-- Whether digits have a zero in front that they do not need. -/
def hasSpareZero (cs : List Char) : Bool :=
  match (Decimal.splitSign cs).2 with
  | '0' :: c :: _ => Text.isDigit c
  | _ => false

/-- The value of a number. -/
def number? (cs : List Char) : Option SettingsValue :=
  let (isNegative, size) := Decimal.splitSign cs
  let hasPlus := cs.head? = some '+'
  if size = "Infinity".toList && !hasPlus then some (.float (.infinite isNegative))
  else if size = "NaN".toList && !hasPlus then some (.float .notANumber)
  else if hasSpareZero cs || (size.head?.any fun c => c.isAlpha || c = '-' || c = '+') then none
  else
    let isHex := "0x".toList.isPrefixOf cs || "0X".toList.isPrefixOf cs
    if !cs.contains '.' && (isHex || !(cs.contains 'e' || cs.contains 'E')) then integer? cs
    else
      (Decimal.ofText? cs).bind fun value => if value.isFinite then some (.float value) else none

/-- Takes a number. -/
def number : Reader SettingsValue := do
  match number? (← run1 isNumberChar) with
  | some value => return value
  | none => failure

/-! ## Values -/

/-- Takes a member of an object. -/
def member (value : Reader SettingsValue) : Reader (String × SettingsValue) := do
  let key ← name <|> string
  gap
  char ':'
  gap
  return (key, ← value)

/-- Takes a value that is no container. -/
def scalar : Reader SettingsValue :=
  (do text "null"; return .null) <|> (do text "true"; return .boolean true) <|>
    (do text "false"; return .boolean false) <|> .text <$> string <|> number

/-- Takes an object whose values are taken by `value`. -/
def object (value : Reader SettingsValue) : Reader SettingsValue := do
  let members ← enclosed '\x7b' '\x7d' gap true (member value)
  return .table (SettingsTable.ofEntries members)

/-- Takes a value with containers up to a depth. -/
def valueWithin : Nat → Reader SettingsValue
  | 0 => scalar
  | depth + 1 => do
    match ← next? with
    | some '[' => return .list (← enclosed '[' ']' gap true (valueWithin depth))
    | some '\x7b' => object (valueWithin depth)
    | _ => scalar

/-- The value of a document. No text nests containers deeper than it is long. -/
def document? (source : String) : Option SettingsValue :=
  let all : Reader SettingsValue := do
    gap
    let value ← object (valueWithin source.length)
    gap
    return value
  all.whole? source

end RouteRegistrar.Settings.Json5
