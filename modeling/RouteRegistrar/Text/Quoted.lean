import RouteRegistrar.Text.CharClass

/-!
# Quoted text

A string literal stands between double quotes. `encode` writes any text as the content of such a
literal, `decode` reads the content back, and `rawValue` reads a literal without escapes.

Writing escapes the quote, the backslash, line breaks and the tabulator by a letter, the null
character by `\0` (or `\x00` where an octal digit follows), and everything that has no visible form
or would attach to its neighbour by its code point. A single quote stays.
-/

namespace RouteRegistrar.Text.Quoted

/-! ## Writing -/

/-- The lowercase hexadecimal digits of a number. -/
def hexDigits (n : Nat) : List Char := Nat.toDigits 16 n

/-- Whether the text begins with an octal digit. -/
def startsOctal : List Char → Bool
  | [] => false
  | c :: _ => '0' ≤ c && c ≤ '7'

/-- The escaped form of a character in front of `rest`. -/
def escapeChar (c : Char) (rest : List Char) : List Char :=
  if c = '\x00' then (if startsOctal rest then ['\\', 'x', '0', '0'] else ['\\', '0'])
  else if c = '\t' then ['\\', 't']
  else if c = '\r' then ['\\', 'r']
  else if c = '\n' then ['\\', 'n']
  else if c = '"' then ['\\', '"']
  else if c = '\\' then ['\\', '\\']
  else if isPrintable c && !isExtending c then [c]
  else ['\\', 'u', '{'] ++ hexDigits c.toNat ++ ['}']

/-- The content of the literal with the given value. -/
def encode : List Char → List Char
  | [] => []
  | c :: rest => escapeChar c rest ++ encode rest

/-- The literal with the given value, quotes included. -/
def literal (value : String) : String :=
  String.ofList ('"' :: encode value.toList ++ ['"'])

/-! ## Escapes -/

/-- Reads the digits of `\u{…}` behind the opening brace: one to six hexadecimal digits, with low
lines allowed behind the first. Returns the character and what follows the closing brace. -/
def codeEscape (value digits : Nat) : List Char → Option (Char × List Char)
  | [] => none
  | c :: rest =>
    match hexValue? c with
    | some d => if digits = 6 then none else codeEscape (value * 16 + d) (digits + 1) rest
    | none =>
      if c = '_' && digits > 0 then codeEscape value digits rest
      else if c = '}' && digits > 0 then (charOfCode? value).map (·, rest)
      else none

/-- The character that a one-letter escape stands for. -/
def letterEscape? : Char → Option Char
  | 'n' => some '\n'
  | 'r' => some '\r'
  | 't' => some '\t'
  | '\\' => some '\\'
  | '0' => some '\x00'
  | '\'' => some '\''
  | '"' => some '"'
  | _ => none

/-! ## Reading -/

/-- Blanks that a backslash at the end of a line removes. -/
def isContinuationBlank (c : Char) : Bool := c = ' ' || c = '\t' || c = '\n' || c = '\r'

/-- One step of reading: the character it yields, if any, and the rest of the content. -/
def decodeStep : List Char → Option (Option Char × List Char)
  | [] => none
  | '\\' :: 'x' :: a :: b :: rest =>
    match hexValue? a, hexValue? b with
    | some h, some l => if h < 8 then some (some (Char.ofNat (h * 16 + l)), rest) else none
    | _, _ => none
  | '\\' :: 'u' :: '{' :: rest => (codeEscape 0 0 rest).map fun (c, more) => (some c, more)
  | '\\' :: '\n' :: rest => some (none, rest.dropWhile isContinuationBlank)
  | '\\' :: '\r' :: rest => some (none, rest.dropWhile isContinuationBlank)
  | '\\' :: c :: rest => (letterEscape? c).map fun value => (some value, rest)
  | '\\' :: [] => none
  | '\r' :: '\n' :: rest => some (some '\n', rest)
  | '\r' :: _ => none
  | c :: rest => some (some c, rest)

/-- The value of a literal, read up to the closing quote. A step that consumes nothing ends the
reading. -/
def decode (cs : List Char) : Option (List Char) :=
  if cs.head? = some '"' then some []
  else
    match decodeStep cs with
    | none => none
    | some (c, rest) =>
      if rest.length < cs.length then (decode rest).map (c.toList ++ ·) else none
termination_by cs.length

/-- The value of a raw literal, given behind its letter `r`: what stands between the first quote
and the last one. -/
def rawValue (cs : List Char) : Option (List Char) :=
  match cs.dropWhile (· = '#') with
  | '"' :: rest =>
    match rest.reverse.dropWhile (· ≠ '"') with
    | '"' :: content => some content.reverse
    | _ => none
  | _ => none

/-- The value of a string literal, quotes or raw marker included; none for any other literal. -/
def value? (text : String) : Option String :=
  match text.toList with
  | '"' :: rest => (decode rest).map String.ofList
  | 'r' :: rest => (rawValue rest).map String.ofList
  | _ => none

end RouteRegistrar.Text.Quoted
