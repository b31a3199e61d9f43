import RouteRegistrar.Text.Quoted
import RouteRegistrar.Token.Basic

/-!
# Reading tokens

Text is read in two passes. The first cuts it into lexemes: brackets, identifiers, punctuation and
literals, with blanks and comments dropped and documentation comments turned into `doc` attributes.
The second nests what stands between brackets.

A recogniser takes the remaining text and returns what is left behind a lexeme, or nothing. Each
loop ends because the remaining text gets shorter.
-/

namespace RouteRegistrar.Token

open Text

/-! ## Identifiers -/

/-- An identifier without a raw marker. -/
def word? : List Char → Option (List Char)
  | [] => none
  | c :: rest => if isIdStart c then some (rest.dropWhile isIdContinue) else none

/-- The text that a recogniser consumed. -/
def consumed (input rest : List Char) : List Char := input.take (input.length - rest.length)

/-- Words that cannot be raw identifiers. -/
def isNeverRaw (word : List Char) : Bool :=
  word = ['_'] || word = "super".toList || word = "self".toList || word = "Self".toList ||
    word = "crate".toList

/-- An identifier, raw or not. -/
def ident? (input : List Char) : Option (List Char) :=
  match input with
  | 'r' :: '#' :: rest =>
    match word? rest with
    | some more => if isNeverRaw (consumed rest more) then none else some more
    | none => none
  | _ => word? input

/-- Beginnings that belong to string and byte literals only. -/
def startsLiteral (input : List Char) : Bool :=
  ["r\"", "r#\"", "r##", "b\"", "b'", "br\"", "br#", "c\"", "cr\"", "cr#"].any
    (·.toList.isPrefixOf input)

/-! ## String and character literals -/

/-- The three kinds of string literals: text, bytes, and text without a null character. -/
inductive StringKind where
  | text
  | bytes
  | nullFree
  deriving DecidableEq

/-- A literal may carry a suffix. -/
def skipSuffix (input : List Char) : List Char := (word? input).getD input

/-- Two hexadecimal digits behind `\x`. -/
def byteEscape (kind : StringKind) : List Char → Option (List Char)
  | a :: b :: rest =>
    match hexValue? a, hexValue? b with
    | some h, some l =>
      let fits : Bool := match kind with
        | .text => h < 8
        | .bytes => true
        | .nullFree => h ≠ 0 || l ≠ 0
      if fits then some rest else none
    | _, _ => none
  | _ => none

/-- Blanks behind a backslash at the end of a line. A carriage return needs a line feed, and the
literal must go on. -/
def continuation : List Char → Option (List Char)
  | [] => none
  | '\r' :: '\n' :: rest => continuation rest
  | '\r' :: _ => none
  | c :: rest => if c = ' ' || c = '\t' || c = '\n' then continuation rest else some (c :: rest)

/-- What may stand behind a backslash in a string. -/
def escape (kind : StringKind) : List Char → Option (List Char)
  | [] => none
  | 'x' :: rest => byteEscape kind rest
  | 'u' :: '{' :: rest =>
    match kind, Quoted.codeEscape 0 0 rest with
    | .text, some (_, more) => some more
    | .nullFree, some (c, more) => if c = '\x00' then none else some more
    | _, _ => none
  | '0' :: rest => if kind = .nullFree then none else some rest
  | c :: rest =>
    if c = '\n' || c = '\r' then continuation (c :: rest)
    else if (Quoted.letterEscape? c).isSome then some rest
    else none

/-- Characters that a string of a kind may hold as they are. -/
def mayHold (kind : StringKind) (c : Char) : Bool :=
  match kind with
  | .text => true
  | .bytes => c.toNat < 128
  | .nullFree => c ≠ '\x00'

/-- The rest of a string with escapes, behind its opening quote. -/
def cookedString (kind : StringKind) (input : List Char) : Option (List Char) :=
  match input with
  | [] => none
  | '"' :: rest => some rest
  | '\r' :: '\n' :: rest => cookedString kind rest
  | '\r' :: _ => none
  | '\\' :: rest =>
    match escape kind rest with
    | none => none
    | some more => if more.length ≤ rest.length then cookedString kind more else none
  | c :: rest => if mayHold kind c then cookedString kind rest else none
termination_by input.length

/-- The rest of a raw string behind its opening quote, closed by a quote and `hashes`. -/
def rawString (kind : StringKind) (hashes : List Char) : List Char → Option (List Char)
  | [] => none
  | '"' :: rest =>
    if hashes.isPrefixOf rest then some (rest.drop hashes.length) else rawString kind hashes rest
  | '\r' :: '\n' :: rest => rawString kind hashes rest
  | '\r' :: _ => none
  | c :: rest => if mayHold kind c then rawString kind hashes rest else none

/-- The rest of a raw string behind its letter. At most 255 hashes open it. -/
def rawStart (kind : StringKind) (input : List Char) : Option (List Char) :=
  let hashes := input.takeWhile (· = '#')
  match input.drop hashes.length with
  | '"' :: rest => if hashes.length ≤ 255 then rawString kind hashes rest else none
  | _ => none

/-- Any string literal with its suffix. -/
def string? (input : List Char) : Option (List Char) :=
  (match input with
    | '"' :: rest => cookedString .text rest
    | 'r' :: rest => rawStart .text rest
    | 'b' :: '"' :: rest => cookedString .bytes rest
    | 'b' :: 'r' :: rest => rawStart .bytes rest
    | 'c' :: '"' :: rest => cookedString .nullFree rest
    | 'c' :: 'r' :: rest => rawStart .nullFree rest
    | _ => none).map skipSuffix

/-- The content of a character or byte literal behind its quote. -/
def charContent (kind : StringKind) : List Char → Option (List Char)
  | [] => none
  | '\\' :: c :: rest =>
    if c = '\n' || c = '\r' then none else escape kind (c :: rest)
  | '\\' :: [] => none
  | c :: rest => if kind = .text || mayHold kind c then some rest else none

/-- A character or byte literal with its suffix. -/
def char? (input : List Char) : Option (List Char) :=
  let content := match input with
    | '\'' :: rest => charContent .text rest
    | 'b' :: '\'' :: rest => charContent .bytes rest
    | _ => none
  match content with
  | some ('\'' :: rest) => some (skipSuffix rest)
  | _ => none

/-! ## Numbers -/

/-- Whether a text begins with a character of a class. -/
def startsWithClass (p : Char → Bool) : List Char → Bool
  | [] => false
  | c :: _ => p c

/-- A number ends where a word ends, after an optional suffix. -/
def numberEnd (input : List Char) : Option (List Char) :=
  let rest := skipSuffix input
  if startsWithClass isIdContinue rest then none else some rest

/-- What stands behind the integral and fractional digits of a decimal number. -/
structure Mantissa where
  rest : List Char
  hasPoint : Bool
  hasExponent : Bool

/-- Reads the digits of a decimal number and its point. A second point, or a name behind the point,
means that the point is none of a number. -/
def mantissa? (hasPoint : Bool) : List Char → Option Mantissa
  | [] => some ⟨[], hasPoint, false⟩
  | c :: rest =>
    if isDigit c || c = '_' then mantissa? hasPoint rest
    else if c = '.' && !hasPoint then
      if startsWithClass (fun d => d = '.' || isIdStart d) rest then none else mantissa? true rest
    else if c = 'e' || c = 'E' then some ⟨c :: rest, hasPoint, true⟩
    else some ⟨c :: rest, hasPoint, false⟩

/-- The digits of an exponent. None if it has two signs or no digit. -/
def exponent? (hasSign hasDigit : Bool) : List Char → Option (List Char)
  | [] => if hasDigit then some [] else none
  | c :: rest =>
    if c = '+' || c = '-' then
      if hasDigit then some (c :: rest) else if hasSign then none else exponent? true hasDigit rest
    else if isDigit c then exponent? hasSign true rest
    else if c = '_' then exponent? hasSign hasDigit rest
    else if hasDigit then some (c :: rest) else none

/-- A decimal number with a point or an exponent. Where the exponent is none, a number with a point
ends in front of its letter. -/
def float? (input : List Char) : Option (List Char) :=
  if !startsWithClass isDigit input then none
  else
    match mantissa? false input with
    | none => none
    | some m =>
      if !(m.hasPoint || m.hasExponent) then none
      else if !m.hasExponent then numberEnd m.rest
      else
        match exponent? false false (m.rest.drop 1) with
        | some rest => numberEnd rest
        | none => if m.hasPoint then numberEnd m.rest else none

/-- The digits of an integer in a base. A decimal digit beyond the base is an error, a letter beyond
it ends the number. -/
def digits? (base : Nat) (empty : Bool) : List Char → Option (List Char)
  | [] => if empty then none else some []
  | c :: rest =>
    if c = '_' then (if empty && base = 10 then none else digits? base empty rest)
    else
      match hexValue? c with
      | some d =>
        if d < base then digits? base false rest
        else if isDigit c then none
        else if empty then none else some (c :: rest)
      | none => if empty then none else some (c :: rest)

/-- An integer with its suffix. -/
def integer? (input : List Char) : Option (List Char) :=
  (match input with
    | '0' :: 'x' :: rest => digits? 16 true rest
    | '0' :: 'o' :: rest => digits? 8 true rest
    | '0' :: 'b' :: rest => digits? 2 true rest
    | _ => digits? 10 true input).bind numberEnd

/-- Any literal. -/
def literal? (input : List Char) : Option (List Char) :=
  string? input <|> char? input <|> float? input <|> integer? input

/-! ## Punctuation -/

/-- The characters of operators. -/
def isPunctChar (c : Char) : Bool := "~!@#$%^&*-=+|;:,<.>/?'".toList.contains c

/-- A punctuation character, unless it begins a comment. -/
def startsPunct : List Char → Bool
  | '/' :: '/' :: _ => false
  | '/' :: '*' :: _ => false
  | c :: _ => isPunctChar c
  | [] => false

/-- A punctuation character and what follows it. A quote must begin a lifetime. -/
def punct? (input : List Char) : Option (Token × List Char) :=
  if !startsPunct input then none
  else
    match input with
    | '\'' :: rest =>
      match ident? rest with
      | none => none
      | some ('\'' :: _) => none
      | some ('#' :: _) =>
        if "r#".toList.isPrefixOf rest then some (punct '\'' .joint, rest) else none
      | some _ => some (punct '\'' .joint, rest)
    | c :: rest => some (punct c (if startsPunct rest then .joint else .alone), rest)
    | [] => none

/-! ## Blanks and comments -/

/-- Blanks between tokens: white space and the two direction marks. -/
def isTokenBlank (c : Char) : Bool := isBlank c || c = '\u200e' || c = '\u200f'

/-- The rest behind a comment that nests to the given depth. -/
def blockComment (depth : Nat) : List Char → Option (List Char)
  | '/' :: '*' :: rest => blockComment (depth + 1) rest
  | '*' :: '/' :: rest => if depth ≤ 1 then some rest else blockComment (depth - 1) rest
  | _ :: rest => blockComment depth rest
  | [] => none

/-- A line and what follows it; the line feed stays in the rest. -/
def cutLine : List Char → List Char × List Char
  | [] => ([], [])
  | '\n' :: rest => ([], '\n' :: rest)
  | '\r' :: '\n' :: rest => ([], '\n' :: rest)
  | c :: rest => let (line, more) := cutLine rest; (c :: line, more)

/-- Whether a text begins with a pattern. -/
def startsWith (pattern : String) (input : List Char) : Bool := pattern.toList.isPrefixOf input

/-- One blank or one plain comment. -/
def skipBlank? (input : List Char) : Option (List Char) :=
  if startsWith "//" input && (!startsWith "///" input || startsWith "////" input) &&
      !startsWith "//!" input then
    some (cutLine input).2
  else if startsWith "/**/" input then some (input.drop 4)
  else if startsWith "/*" input && (!startsWith "/**" input || startsWith "/***" input) &&
      !startsWith "/*!" input then
    blockComment 0 input
  else
    match input with
    | c :: rest => if isTokenBlank c then some rest else none
    | [] => none

/-- Drops blanks and plain comments. -/
def skipBlanks (input : List Char) : List Char :=
  match skipBlank? input with
  | some rest => if rest.length < input.length then skipBlanks rest else input
  | none => input
termination_by input.length

/-- Every carriage return in a documentation comment is followed by a line feed. -/
def hasBareReturn : List Char → Bool
  | [] => false
  | '\r' :: '\n' :: rest => hasBareReturn rest
  | '\r' :: _ => true
  | _ :: rest => hasBareReturn rest

/-- The text of a documentation comment, whether it documents what encloses it, and the rest. -/
def docComment? (input : List Char) : Option (List Char × Bool × List Char) :=
  let block (inner : Bool) : Option (List Char × Bool × List Char) :=
    (blockComment 0 input).map fun rest =>
      let text := consumed input rest
      ((text.drop 3).take (text.length - 5), inner, rest)
  let line (inner : Bool) : Option (List Char × Bool × List Char) :=
    let (text, rest) := cutLine (input.drop 3)
    some (text, inner, rest)
  let found :=
    if startsWith "//!" input then line true
    else if startsWith "/*!" input then block true
    else if startsWith "///" input then (if startsWith "////" input then none else line false)
    else if startsWith "/**" input && !startsWith "/***" input then block false
    else none
  found.filter fun (text, _, _) => !hasBareReturn text

/-- The attribute that a documentation comment stands for. -/
def docTokens (text : List Char) (inner : Bool) : List Token :=
  punct '#' .alone :: (if inner then [punct '!' .alone] else []) ++
    [brackets [ident "doc", punct '=' .alone, literal (Quoted.literal (String.ofList text))]]

/-! ## Lexemes -/

/-- A bracket, or a token that is none. -/
inductive Lexeme where
  | opening (delimiter : Delimiter)
  | closing (delimiter : Delimiter)
  | leaf (token : Token)

/-- The placeholder that stands for a literal with an error. -/
def errorLiteral : String := "(/*ERROR*/)"

/-- The token at the beginning of a text. -/
def leaf? (input : List Char) : Option (Token × List Char) :=
  match literal? input with
  | some rest => some (literal (String.ofList (consumed input rest)), rest)
  | none =>
    match punct? input with
    | some found => some found
    | none =>
      match if startsLiteral input then none else ident? input with
      | some rest => some (ident (String.ofList (consumed input rest)), rest)
      | none =>
        if startsWith errorLiteral input then
          some (literal errorLiteral, input.drop errorLiteral.length)
        else none

/-- The lexemes at the beginning of a nonempty text without leading blanks. -/
def lexeme? (input : List Char) : Option (List Lexeme × List Char) :=
  match docComment? input with
  | some (text, inner, rest) => some ((docTokens text inner).map Lexeme.leaf, rest)
  | none =>
    match input with
    | '(' :: rest =>
      if startsWith errorLiteral input then (leaf? input).map fun (t, more) => ([.leaf t], more)
      else some ([.opening .parenthesis], rest)
    | '[' :: rest => some ([.opening .bracket], rest)
    | '{' :: rest => some ([.opening .brace], rest)
    | ')' :: rest => some ([.closing .parenthesis], rest)
    | ']' :: rest => some ([.closing .bracket], rest)
    | '}' :: rest => some ([.closing .brace], rest)
    | _ => (leaf? input).map fun (t, rest) => ([.leaf t], rest)

/-- All lexemes of a text, or nothing if some part of it is no lexeme. -/
def lexemes (input : List Char) : Option (List Lexeme) :=
  match skipBlanks input with
  | [] => some []
  | c :: cs =>
    match lexeme? (c :: cs) with
    | none => none
    | some (found, rest) =>
      if rest.length < input.length then (lexemes rest).map (found ++ ·) else none
termination_by input.length

/-! ## Nesting -/

/-- Nests lexemes. `stack` holds the open brackets, innermost first, each with the tokens in front
of it; `done` holds the tokens of the innermost bracket so far. Both lists of tokens are
reversed. -/
def nest (stack : List (Delimiter × List Token)) (done : List Token) :
    List Lexeme → Option (List Token)
  | [] => if stack.isEmpty then some done.reverse else none
  | .leaf t :: rest => nest stack (t :: done) rest
  | .opening d :: rest => nest ((d, done) :: stack) [] rest
  | .closing d :: rest =>
    match stack with
    | (opened, outer) :: more =>
      if opened = d then nest more (group d done.reverse :: outer) rest else none
    | [] => none

/-- Drops a byte order mark. -/
def dropByteOrderMark : List Char → List Char
  | '\ufeff' :: rest => rest
  | input => input

/-- The token trees of a text, or nothing if it cannot be read as tokens. -/
def tokenize (text : String) : Option (List Token) :=
  (lexemes (dropByteOrderMark text.toList)).bind (nest [] [])

end RouteRegistrar.Token
