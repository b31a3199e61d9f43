import RouteRegistrar.Settings.Reader

/-!
# Object notation documents

Structures `(name: value)`, maps `{key: value}`, lists, tuples, options, strings with and without
escapes, characters and numbers, with nested comments between them. A structure and a map become a
table, a tuple becomes a list, and an option becomes what it holds. The keys of a map have to be
texts.
-/

namespace RouteRegistrar.Settings.Ron

open Reader

/-! ## Between values -/

/-- A character that separates what a document consists of. -/
def isBlank (c : Char) : Bool := c = ' ' || c = '\t' || c = '\n' || c = '\r'

/-- What is left behind a comment, of which so many parts are still open. -/
def behindComment : Nat → List Char → Option (List Char)
  | 0, cs => some cs
  | level + 1, '/' :: '*' :: cs => behindComment (level + 2) cs
  | level + 1, '*' :: '/' :: cs => behindComment level cs
  | level + 1, _ :: cs => behindComment (level + 1) cs
  | _ + 1, [] => none

/-- Takes a comment. Comments between `/*` and `*/` nest. -/
def comment : Reader Unit :=
  (do text "//"; discard (run (· ≠ '\n'))) <|>
    (do text "/*"; fun cs => (behindComment 1 cs).map ((), ·))

/-- Takes blanks and comments. -/
def gap : Reader Unit := do discard (many (discard (run1 isBlank) <|> comment))

/-! ## Names, numbers and texts -/

/-- A character that may continue a name. -/
def isNameChar (c : Char) : Bool := c.isAlphanum || c = '_'

/-- A character of a raw name. -/
def isRawNameChar (c : Char) : Bool := isNameChar c || ['.', '+', '-'].contains c

/-- Takes a name, or a raw name behind `r#`. What begins a raw string is no name. -/
def name : Reader String := do
  match ← rest with
  | ['r'] => failure
  | 'r' :: '"' :: _ => failure
  | 'r' :: '#' :: _ => do
    text "r#"
    return String.ofList (← run1 isRawNameChar)
  | _ => do
    let first ← one fun c => c.isAlpha || c = '_'
    return String.ofList (first :: (← run isNameChar))

/-- Takes a word that no name continues. -/
def word (spelling : String) (value : SettingsValue) : Reader SettingsValue := do
  text spelling
  if (← next?).any isNameChar then failure
  return value

/-- A character that a number may consist of. -/
def isNumberChar (c : Char) : Bool := isRawNameChar c

/-- The integer of digits in a base, with low lines behind the first digit. It has to fit into 64
bits, with a sign if one is written. One that does not fit with a sign becomes a decimal. -/
def integer? (hasSign isNegative : Bool) (base : Nat) (digits : List Char) :
    Option SettingsValue := do
  if digits.isEmpty || digits.head? = some '_' then none
  let size ← Decimal.ofDigitsIn base (digits.filter (· ≠ '_'))
  match Decimal.fitting? (if isNegative then -(size : Int) else size) with
  | some n => return .integer n
  | none =>
    if !hasSign && size < UInt64.size then return .float (.ofDecimal false size 0) else none

/-- The value of a decimal with digits, a point and an exponent. -/
def decimal? (cs : List Char) : Option SettingsValue :=
  if cs.all fun c => Text.isDigit c || ['.', 'e', 'E', '+', '-'].contains c then
    (Decimal.ofText? cs).map .float
  else none

/-- The value of a number: an integer in one of four bases, or else a decimal. -/
def number? (cs : List Char) : Option SettingsValue :=
  let hasSign := cs.head? = some '+' || cs.head? = some '-'
  let (isNegative, digits) := Decimal.splitSign cs
  match digits with
  | '0' :: 'x' :: more => integer? hasSign isNegative 16 more
  | '0' :: 'o' :: more => integer? hasSign isNegative 8 more
  | '0' :: 'b' :: more => integer? hasSign isNegative 2 more
  | _ => (integer? hasSign isNegative 10 digits).orElse fun _ => decimal? cs

/-- Takes a number. -/
def number : Reader SettingsValue := do
  discard (do
    let c ← next?
    if c.any fun c => Text.isDigit c || c = '+' || c = '-' || c = '.' then pure () else failure)
  match number? (← run1 isNumberChar) with
  | some value => return value
  | none => failure

/-- Takes an escape. -/
def escape : Reader Char := do
  char '\\'
  match ← any with
  | 'n' => return '\n'
  | 'r' => return '\r'
  | 't' => return '\t'
  | '0' => return '\x00'
  | '\\' => return '\\'
  | '"' => return '"'
  | '\'' => return '\''
  | 'x' => charOfCode (← hexNumber 2)
  | 'u' => do
    char '\x7b'
    let digits ← run1 isHexDigit
    char '\x7d'
    if digits.length > 6 then failure
    charOfCode ((Decimal.ofDigitsIn 16 digits).getD 0)
  | _ => failure

/-- Takes a string with escapes. -/
def string : Reader String := do
  char '"'
  let content ← many (one (fun c => c ≠ '"' && c ≠ '\\') <|> escape)
  char '"'
  return String.ofList content

/-- Takes a string without escapes. -/
def rawString : Reader String := do
  char 'r'
  let marks ← run (· = '#')
  char '"'
  let close := "\"" ++ String.ofList marks
  let content ← many (do if ← took (text close) then failure else any)
  text close
  return String.ofList content

/-- Takes a character between single quotes. -/
def character : Reader String := do
  char '\''
  let c ← one (fun c => c ≠ '\\' && c ≠ '\'') <|> escape
  char '\''
  return c.toString

/-! ## Values -/

/-- Takes a value that is no container. -/
def scalar : Reader SettingsValue :=
  word "true" (.boolean true) <|> word "false" (.boolean false) <|> word "None" .null <|>
    word "inf" (.float (.infinite false)) <|> word "-inf" (.float (.infinite true)) <|>
    word "NaN" (.float .notANumber) <|> .text <$> rawString <|> .text <$> string <|>
    .text <$> character <|> number <|> (do text "()"; return .null)

/-- Takes a member of a structure. -/
def field (value : Reader SettingsValue) : Reader (String × SettingsValue) := do
  let key ← name
  gap
  char ':'
  gap
  return (key, ← value)

/-- Takes a member of a map. Says whether its key is a single character. -/
def entry (value : Reader SettingsValue) : Reader (Bool × String × SettingsValue) := do
  let isCharacter := (← next?) = some '\''
  let key ← character <|> string <|> rawString
  gap
  char ':'
  gap
  return (isCharacter, key, ← value)

/-- The table of the members of a map. A text counts more than a character as the same key. -/
def tableOfMap (members : List (Bool × String × SettingsValue)) : SettingsTable :=
  let (characters, texts) := members.partition (·.1)
  SettingsTable.ofEntries ((characters ++ texts).map (·.2))

/-- Takes what stands between parentheses. -/
def parenthesized (value : Reader SettingsValue) : Reader SettingsValue :=
  (do
    let fields ← enclosed '(' ')' gap true (field value)
    if fields.isEmpty then failure
    return .table (SettingsTable.ofEntries fields)) <|>
    (do return .list (← enclosed '(' ')' gap true value))

/-- Takes an option that holds a value, with or without a comma behind it. Its parentheses may be
left out where an extension says so. -/
def option (isImplicit : Bool) (value : Reader SettingsValue) : Reader SettingsValue := do
  discard (word "Some" .null)
  gap
  if ← took (char '(') then
    gap
    let held ← value
    gap
    discard (took (char ','))
    gap
    char ')'
    return held
  else if isImplicit then value
  else failure

/-- Takes a value with containers up to a depth. -/
def valueWithin (isImplicit : Bool) : Nat → Reader SettingsValue
  | 0 => scalar
  | depth + 1 => do
    let value := valueWithin isImplicit depth
    match ← next? with
    | some '[' => return .list (← enclosed '[' ']' gap true value)
    | some '\x7b' => return .table (tableOfMap (← enclosed '\x7b' '\x7d' gap true (entry value)))
    | _ =>
      if (word "Some" .null (← rest)).isSome then option isImplicit value
      else
        scalar <|> parenthesized value <|> (do
          discard name
          gap
          if (← next?) = some '(' then parenthesized value else return .null)

/-- Extensions that a document may turn on. -/
def knownExtensions : List String := ["unwrap_newtypes", "implicit_some"]

/-- Takes an attribute that turns extensions on. -/
def extensions : Reader (List String) := do
  char '#'
  gap
  char '!'
  gap
  char '['
  gap
  text "enable"
  gap
  let names ← enclosed '(' ')' gap true name
  gap
  char ']'
  gap
  if names.isEmpty || !names.all (knownExtensions.contains ·) then failure
  return names

/-- The value of a document. No text nests containers deeper than it is long. -/
def document? (source : String) : Option SettingsValue :=
  let all : Reader SettingsValue := do
    gap
    let enabled := (← many extensions).flatten
    let value ← valueWithin (enabled.contains "implicit_some") source.length
    gap
    return value
  all.whole? source

end RouteRegistrar.Settings.Ron
