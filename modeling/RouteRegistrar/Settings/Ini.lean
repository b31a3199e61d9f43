import RouteRegistrar.Settings.Reader

/-!
# Section documents

Lines of a name, `=` or `:`, and a text. A name in brackets begins a section, which becomes a table.
Comments begin with `;` or `#` at the beginning of a line. A text may begin with quotes, which are
dropped, and a backslash escapes the next character. All values are texts; of two with one name the
later one counts.
-/

namespace RouteRegistrar.Settings.Ini

open Reader

/-- The character that a one-letter escape stands for; other characters stand for themselves. -/
def letterMeaning : Char → Char
  | '0' => '\x00'
  | 'a' => '\x07'
  | 'b' => '\x08'
  | 't' => '\t'
  | 'r' => '\r'
  | 'n' => '\n'
  | c => c

/-- Takes a code point of four characters: hexadecimal digits, or a plus in front of three. -/
def code : Reader Char := do
  let taken ← exactly (fun _ => true) 4
  let digits := if taken.head? = some '+' then taken.drop 1 else taken
  match Decimal.ofDigitsIn 16 digits with
  | some n => charOfCode n
  | none => failure

/-- Takes an escape. A line break behind a backslash is nothing. -/
def escape : Reader (List Char) := do
  char '\\'
  let c ← any
  if c = '\n' then return []
  if c = 'x' then return [← code]
  return [letterMeaning c]

/-- Takes what stands in front of the next character of a class, with its escapes. -/
def upTo (stops : Char → Bool) : Reader (List Char) := do
  let plain := one fun c => !stops c && c ≠ '\\'
  return (← many ((fun c => [c]) <$> plain <|> escape)).flatten

/-- Whether a character ends a line. -/
def endsLine (c : Char) : Bool := c = '\n' || c = '\r'

/-- Takes the rest of a line. -/
def restOfLine : Reader (List Char) := do
  let taken ← upTo endsLine
  if (← next?) = some '\\' then failure
  return taken

/-- Takes blanks and comments. -/
def gapWithin : Nat → Bool → Reader Unit
  | 0, _ => return
  | fuel + 1, isLineStart => do
    let blanks ← run Text.isBlank
    let isLineStart := blanks.getLast?.elim isLineStart (· = '\n')
    if (← next?).any fun c => c = ';' || c = '#' then
      if !isLineStart then failure
      discard (run (· ≠ '\n'))
      gapWithin fuel false

/-- Takes blanks and comments behind something on the same line. -/
def gap : Reader Unit := do gapWithin ((← rest).length + 1) false

/-- The text between blanks. -/
def trimmed (cs : List Char) : String := String.ofList (Text.trimBy Text.isBlank cs)

/-- Takes a value. -/
def value : Reader String := do
  discard (run fun c => Text.isBlank c && !endsLine c)
  match ← next? with
  | some quote =>
    if quote = '"' || quote = '\'' then
      char quote
      let content ← upTo (· = quote)
      char quote
      return trimmed (content ++ (← restOfLine))
    else return trimmed (← restOfLine)
  | none => return ""

/-- Takes a name and its value. -/
def property : Reader (String × SettingsValue) := do
  gap
  if (← next?) = some '[' then failure
  let name ← upTo fun c => c = '=' || c = ':'
  discard (one fun c => c = '=' || c = ':')
  if (trimmed name).isEmpty then failure
  return (trimmed name, .text (← value))

/-- Takes a section. -/
def sectionTable : Reader (String × SettingsValue) := do
  gap
  char '['
  let name ← upTo (· = ']')
  char ']'
  return (trimmed name, .table (SettingsTable.ofEntries (← many property)))

/-- The value of a document. -/
def document? (source : String) : Option SettingsValue :=
  let entries : Reader SettingsValue := do
    gapWithin (source.length + 1) true
    let properties ← many property
    let sections ← many sectionTable
    gap
    return .table (SettingsTable.ofEntries (properties ++ sections))
  entries.whole? source

end RouteRegistrar.Settings.Ini
