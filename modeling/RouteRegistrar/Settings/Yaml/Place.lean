import RouteRegistrar.Settings.Reader

/-!
# Places in a document

Indentation gives a document its structure, so each character is read together with its place. A
line feed alone begins a new line; a carriage return separates lines without going back to the
first column. The character NUL ends a document, and stands for its end here.
-/

namespace RouteRegistrar.Settings.Yaml

/-! ## Classes of characters -/

/-- The character that stands for the end of a document. -/
def endMark : Char := '\x00'

/-- A character that separates lines. -/
def isBreak (c : Char) : Bool := c = '\n' || c = '\r'

/-- A blank on one line. -/
def isBlank (c : Char) : Bool := c = ' ' || c = '\t'

/-- The end of a line or of a document. -/
def endsLine (c : Char) : Bool := isBreak c || c = endMark

/-- What separates words. -/
def isGap (c : Char) : Bool := isBlank c || endsLine c

/-- A character of the name of an anchor, a tag or a directive. -/
def isNamePart (c : Char) : Bool := c.isAlphanum || c = '_' || c = '-'

/-- A character that delimits the elements of a flow collection. -/
def isFlowMark (c : Char) : Bool := [',', '[', ']', '\x7b', '\x7d'].contains c

/-- How many line breaks there are in a text. A carriage return and a line feed behind it are
one. -/
def countBreaks : List Char → Nat
  | [] => 0
  | '\r' :: '\n' :: rest => countBreaks rest + 1
  | c :: rest => if isBreak c then countBreaks rest + 1 else countBreaks rest

/-! ## Places -/

/-- A character and where it stands. -/
structure Place where
  char : Char
  line : Nat
  column : Nat
  index : Nat
  deriving Repr, Inhabited

namespace Place

/-- The place behind a place, for another character. -/
def next (place : Place) (c : Char) : Place :=
  if place.char = '\n' then ⟨c, place.line + 1, 0, place.index + 1⟩
  else ⟨c, place.line, place.column + 1, place.index + 1⟩

/-- The places of a character and of those behind it. -/
def run (place : Place) : List Char → List Place
  | [] => [place]
  | c :: rest => place :: run (place.next c) rest

/-- The places of a document up to its end. -/
def ofDocument (source : String) : List Place :=
  match source.toList.takeWhile (· ≠ endMark) ++ [endMark] with
  | [] => []
  | c :: rest => run ⟨c, 1, 0, 0⟩ rest

end Place

/-! ## Readers of places -/

/-- Takes a value from the beginning of a document. -/
abbrev Scan := StateT (List Place) Option

namespace Scan

/-- The character at a distance. -/
def charAt (places : List Place) (distance : Nat) : Char :=
  (places[distance]?.map (·.char)).getD endMark

/-- The place where a reader stands. -/
def place : Scan Place := fun places => some (places.headD ⟨endMark, 0, 0, 0⟩, places)

/-- The next character, without taking it. -/
def peek : Scan Char := fun places => some (charAt places 0, places)

/-- Takes a number of characters. -/
def skip (count : Nat) : Scan Unit := fun places => some ((), places.drop count)

/-- Takes a character. -/
def char (c : Char) : Scan Unit := fun places =>
  if charAt places 0 = c then some ((), places.drop 1) else none

/-- Takes all characters of a class. -/
def run (p : Char → Bool) : Scan (List Char) := fun places =>
  some ((places.takeWhile (p ·.char)).map (·.char), places.dropWhile (p ·.char))

/-- Takes blanks and a comment, up to the end of a line. There must be nothing else. -/
def lineEnd : Scan Unit := do
  discard (run isBlank)
  if (← peek) = '#' then discard (run (!endsLine ·))
  if !endsLine (← peek) then failure

/-- Takes a line break, if there is one. -/
def lineBreak : Scan Unit := fun places =>
  match charAt places 0, charAt places 1 with
  | '\r', '\n' => some ((), places.drop 2)
  | c, _ => some ((), if isBreak c then places.drop 1 else places)

/-- Takes a number of hexadecimal digits. -/
def hexNumber (count : Nat) : Scan Nat := fun places =>
  (Decimal.ofDigitsIn 16 ((places.take count).map (·.char))).map (·, places.drop count)

/-- Whether a line begins here with three dashes or three points that stand alone. -/
def atBoundary (mark : Char) (places : List Place) : Bool :=
  places.head?.any (·.column = 0) && charAt places 0 = mark && charAt places 1 = mark &&
    charAt places 2 = mark && isGap (charAt places 3)

/-- Whether a document begins or ends here. -/
def atDocument (places : List Place) : Bool := atBoundary '-' places || atBoundary '.' places

end Scan

end RouteRegistrar.Settings.Yaml
