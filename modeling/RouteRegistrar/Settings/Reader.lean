import RouteRegistrar.Decimal.Reading
import RouteRegistrar.Settings.Value

/-!
# Readers

A reader takes a value from the beginning of a text and leaves the rest, or fails. All formats of
settings documents are read with the few readers of this module.
-/

namespace RouteRegistrar.Settings

/-- Takes a value from the beginning of a text. -/
abbrev Reader := StateT (List Char) Option

namespace Reader

/-- What is left, without taking it. -/
def rest : Reader (List Char) := fun cs => some (cs, cs)

/-- The next character, without taking it. -/
def next? : Reader (Option Char) := fun cs => some (cs.head?, cs)

/-- Takes any character. -/
def any : Reader Char
  | [] => none
  | c :: cs => some (c, cs)

/-- Takes a character of a class. -/
def one (p : Char → Bool) : Reader Char
  | [] => none
  | c :: cs => if p c then some (c, cs) else none

/-- Takes a character. -/
def char (c : Char) : Reader Unit := fun cs => (one (· = c) cs).map fun (_, left) => ((), left)

/-- Takes a text. -/
def text (expected : String) : Reader Unit := fun cs =>
  (expected.toList.isPrefixOf? cs).map ((), ·)

/-- Takes all characters of a class. -/
def run (p : Char → Bool) : Reader (List Char) := fun cs => some (cs.takeWhile p, cs.dropWhile p)

/-- Takes at least one character of a class. -/
def run1 (p : Char → Bool) : Reader (List Char) := fun cs =>
  let taken := cs.takeWhile p
  if taken.isEmpty then none else some (taken, cs.dropWhile p)

/-- Takes what a reader takes, if it does not fail. -/
def optional? (p : Reader α) : Reader (Option α) := (some <$> p) <|> pure none

/-- Whether a reader takes something. -/
def took (p : Reader α) : Reader Bool := ((fun _ => true) <$> p) <|> pure false

/-- Repeats a reader at most a number of times, until it fails. -/
def manyWithin (p : Reader α) : Nat → Reader (List α)
  | 0 => pure []
  | fuel + 1 => fun cs =>
    match p cs with
    | none => some ([], cs)
    | some (a, left) => (manyWithin p fuel left).map fun (more, left) => (a :: more, left)

/-- Repeats a reader until it fails. The reader has to take at least one character each time. -/
def many (p : Reader α) : Reader (List α) := fun cs => manyWithin p cs.length cs

/-- Takes what stands between brackets, separated by commas, with gaps around everything. There may
be a comma behind the last element if `allowsLastComma` says so. -/
def enclosed (first last : Char) (gap : Reader Unit) (allowsLastComma : Bool)
    (element : Reader α) : Reader (List α) := do
  char first
  gap
  if ← took (char last) then return []
  let head ← element
  let tail ← many (do gap; char ','; gap; element)
  gap
  if allowsLastComma then
    discard (took (char ','))
    gap
  char last
  return head :: tail

/-- Takes a number of characters of a class. -/
def exactly (p : Char → Bool) : Nat → Reader (List Char)
  | 0 => pure []
  | count + 1 => do
    let c ← one p
    return c :: (← exactly p count)

/-- Whether a character is a hexadecimal digit. -/
def isHexDigit (c : Char) : Bool := (Text.hexValue? c).isSome

/-- Takes a number of hexadecimal digits. -/
def hexNumber (count : Nat) : Reader Nat := do
  match Decimal.ofDigitsIn 16 (← exactly isHexDigit count) with
  | some n => return n
  | none => failure

/-- The character of a code point. -/
def charOfCode (code : Nat) : Reader Char := liftM (Text.charOfCode? code)

/-- What a reader takes from a whole text. -/
def whole? (p : Reader α) (source : String) : Option α :=
  (p source.toList).bind fun (a, left) => if left.isEmpty then some a else none

end Reader

end RouteRegistrar.Settings
