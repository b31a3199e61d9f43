import RouteRegistrar.Settings.Reader

/-!
# Tokens of table documents

Words, texts, marks, blanks, comments and line ends. A text stands between single quotes, or between
double quotes with escapes; between three quotes it may have line breaks, and one or two quotes at
its end.
-/

namespace RouteRegistrar.Settings.Toml

open Reader

/-- A token of a document. -/
inductive Token where
  | newline
  | blank (content : List Char)
  | comment
  | equals
  | period
  | comma
  | colon
  | plus
  | openBrace
  | closeBrace
  | openBracket
  | closeBracket
  | word (content : List Char)
  | string (content : String) (isMultiline : Bool)
  deriving DecidableEq, Repr

/-! ## Texts -/

/-- Whether a character is a blank on one line. -/
def isBlank (c : Char) : Bool := c = ' ' || c = '\t'

/-- A character that may stand in a text or a comment. -/
def isPlain (c : Char) : Bool := c = '\t' || ' ' ≤ c

/-- Takes a character that stands for itself in a text. -/
def plain : Reader (List Char) := do return [← one fun c => isPlain c && c ≠ '\x7f']

/-- Takes blanks and line breaks behind a backslash. There has to be a line break. -/
def continuation : Reader (List Char) := do
  discard (run isBlank)
  char '\n'
  discard (run fun c => isBlank c || c = '\n')
  return []

/-- Takes an escape. -/
def escape (isMultiline : Bool) : Reader (List Char) := do
  char '\\'
  let c ← next?
  if isMultiline && c.any fun c => isBlank c || c = '\n' then continuation
  else
    match ← any with
    | '"' => return ['"']
    | '\\' => return ['\\']
    | 'b' => return ['\x08']
    | 'f' => return ['\x0c']
    | 'n' => return ['\n']
    | 'r' => return ['\r']
    | 't' => return ['\t']
    | 'u' => return [← charOfCode (← hexNumber 4)]
    | 'U' => return [← charOfCode (← hexNumber 8)]
    | _ => failure

/-- Takes what stands between quotes, where no quote stands. -/
def part (quote : Char) (isMultiline : Bool) : Reader (List Char) := do
  match ← next? with
  | some '\\' => if quote = '"' then escape isMultiline else plain
  | some '\n' => if isMultiline then any *> pure ['\n'] else failure
  | some c => if c = quote then failure else plain
  | none => failure

/-- Takes quotes that do not end a text of several lines. -/
def innerQuotes (quote : Char) : Reader (List Char) := do
  let quotes ← run1 (· = quote)
  if quotes.length < 3 then return quotes else failure

/-- Takes a text. A line break directly behind three quotes does not count. -/
def quoted : Reader Token := do
  let quote ← one fun c => c = '"' || c = '\''
  if !(← took (char quote)) then
    let content ← many (part quote false)
    char quote
    return .string (String.ofList content.flatten) false
  else if !(← took (char quote)) then return .string "" false
  else
    discard (took (char '\n'))
    let content ← many (part quote true <|> innerQuotes quote)
    text (String.ofList [quote, quote, quote])
    let first ← took (char quote)
    let second ← if first then took (char quote) else pure false
    let quotes := (if first then [quote] else []) ++ (if second then [quote] else [])
    return .string (String.ofList (content.flatten ++ quotes)) true

/-! ## Tokens -/

/-- A character of a bare key, a number or a date. -/
def isWordChar (c : Char) : Bool := c.isAlphanum || c = '_' || c = '-'

/-- The token of a single character. -/
def mark? : Char → Option Token
  | '\n' => some .newline
  | '=' => some .equals
  | '.' => some .period
  | ',' => some .comma
  | ':' => some .colon
  | '+' => some .plus
  | '\x7b' => some .openBrace
  | '\x7d' => some .closeBrace
  | '[' => some .openBracket
  | ']' => some .closeBracket
  | _ => none

/-- Takes a token. -/
def Token.read : Reader Token :=
  (do return .blank (← run1 isBlank)) <|>
  (do char '#'; discard (run isPlain); return .comment) <|>
  quoted <|>
  (do return .word (← run1 isWordChar)) <|>
  (do
    match mark? (← any) with
    | some token => return token
    | none => failure)

/-- Writes a carriage return with a line feed behind it as a line feed alone. -/
def foldBreaks : List Char → List Char
  | [] => []
  | '\r' :: '\n' :: rest => '\n' :: foldBreaks rest
  | c :: rest => c :: foldBreaks rest

/-- The tokens of a document. -/
def Token.ofDocument? (source : String) : Option (List Token) :=
  let tokens : Reader (List Token) := do
    discard (took (char '\ufeff'))
    many Token.read
  tokens.whole? (String.ofList (foldBreaks source.toList))

/-! ## Readers of tokens -/

/-- Takes a value from the beginning of tokens. -/
abbrev TokenReader := StateT (List Token) Option

namespace TokenReader

/-- The next token, without taking it. -/
def peek? : TokenReader (Option Token) := do return (← get).head?

/-- Takes any token. -/
def next : TokenReader Token
  | [] => none
  | token :: rest => some (token, rest)

/-- Takes a token, if it is the next one. -/
def took (token : Token) : TokenReader Bool := fun tokens =>
  if tokens.head? = some token then some (true, tokens.drop 1) else some (false, tokens)

/-- Takes a token, which has to be the next one. -/
def expect (token : Token) : TokenReader Unit := do
  if !(← took token) then failure

/-- Takes a word. -/
def word : TokenReader (List Char) := do
  match ← next with
  | .word content => return content
  | _ => failure

/-- Takes blanks. -/
def blanks : TokenReader Unit := do
  if let some (.blank _) ← peek? then discard next

/-- Takes the end of a line. -/
def newline : TokenReader Unit := do
  if (← peek?).isSome then expect .newline

/-- Takes a comment with the end of its line, if there is one. -/
def comment : TokenReader Bool := do
  if ← took .comment then
    newline
    return true
  else return false

/-- Takes blanks, comments and line ends. -/
def gap : Nat → TokenReader Unit
  | 0 => return
  | fuel + 1 => do
    blanks
    if (← took .newline) || (← comment) then gap fuel

/-- Takes blanks, comments and line ends up to something else. -/
def gaps : TokenReader Unit := do gap ((← get).length + 1)

/-- Takes a key without dots. -/
def simpleKey : TokenReader String := do
  match ← next with
  | .word content => return String.ofList content
  | .string content false => return content
  | _ => failure

/-- Takes the parts of a key behind the first one. -/
def keyParts : Nat → TokenReader (List String)
  | 0 => return []
  | fuel + 1 => do
    blanks
    if ← took .period then
      blanks
      let head ← simpleKey
      return head :: (← keyParts fuel)
    else return []

/-- Takes a key with its parts, and blanks behind it. -/
def key : TokenReader (List String) := do
  let first ← simpleKey
  return first :: (← keyParts ((← get).length + 1))

end TokenReader

end RouteRegistrar.Settings.Toml
