/-!
# Documents

A document is text with places where a line may end, arranged in boxes. Whether a line ends at a
place is not decided here: a consistent box ends a line at all of its own places or at none, an
inconsistent box only where the next part would not fit.

Documents are put together from the inside out. A box that holds nothing but a place vanishes, and
so does a place at the end of a box that stands for "only if something follows". Two pieces depend
on what is written in front of them: dots, which keep clear of other dots, and the place in braces
that hold nothing.
-/

namespace RouteRegistrar

/-- How a box ends lines. -/
inductive Breaking where
  /-- At all of its own places or at none. -/
  | consistent
  /-- Only where the next part would not fit. -/
  | inconsistent
  deriving DecidableEq, Repr

/-- A place where a line may end. -/
structure BreakPoint where
  /-- Spaces written if the line goes on. -/
  blank : Nat
  /-- Added to the indentation of the box if the line ends. -/
  shift : Int
  /-- Written in front of the end of the line. -/
  before : String
  /-- Written at the beginning of the next line. -/
  behind : String
  /-- Written if the line goes on. -/
  otherwise : String
  /-- The place vanishes at the end of a box. -/
  needsMore : Bool
  /-- The line always goes on. -/
  never : Bool
  deriving DecidableEq, Repr

/-- What a document is made of, in order. -/
inductive Piece where
  | text (content : String)
  /-- Text that begins with a dot. A space keeps it apart from text that ends in one. -/
  | dotted (content : String)
  | breakPoint (place : BreakPoint)
  /-- The beginning of a box, which adds to the indentation if it does not fit. -/
  | opening (indent : Int) (breaking : Breaking)
  | closing
  /-- Nothing, but too wide for any line. -/
  | overflow
  /-- A place at the end of a box that is too wide for one line. It vanishes if the box is broken by
  what is in front of the place, and breaks the box otherwise. -/
  | hollow (place : BreakPoint)
  deriving DecidableEq, Repr

/-- A document. -/
structure Document where
  pieces : List Piece
  deriving DecidableEq, Repr

namespace Document

/-- A width that no line has. -/
def infinity : Nat := 0xffff

/-- One step of indentation. -/
def step : Int := 4

/-! ## Text and places -/

/-- Text that stays on its line. -/
def word (content : String) : Document := ⟨[.text content]⟩

instance : Coe String Document := ⟨word⟩

/-- Text that begins with a dot. -/
def dotted (content : String) : Document := ⟨[.dotted content]⟩

/-- The empty document. -/
def empty : Document := ⟨[]⟩

/-- A document for a condition that may fail. -/
def onlyIf (condition : Bool) (document : Document) : Document :=
  if condition then document else empty

/-- One document behind another. -/
def cat (parts : List Document) : Document := ⟨parts.flatMap (·.pieces)⟩

/-- A place with a number of spaces. -/
def placeOf (blank : Nat) : BreakPoint := ⟨blank, 0, "", "", "", false, false⟩

/-- A place as a document. -/
def place (breakPoint : BreakPoint) : Document := ⟨[.breakPoint breakPoint]⟩

/-- Nothing, or the end of a line. -/
def zeroBreak : Document := place (placeOf 0)

/-- A space, or the end of a line. -/
def space : Document := place (placeOf 1)

/-- The end of a line. -/
def hardBreak : Document := place (placeOf infinity)

/-- A space, or the end of a line, if something follows. -/
def spaceIfMore : Document := place { placeOf 1 with needsMore := true }

/-- The end of a line, if something follows. -/
def hardBreakIfMore : Document := place { placeOf infinity with needsMore := true }

/-- Nothing. What stands in front of it is measured up to here. -/
def neverBreak : Document := place { placeOf 0 with never := true }

/-- The comma behind an item: behind the last one only if the line ends there. -/
def comma (isLast : Bool) : Document :=
  if isLast then place { placeOf 0 with before := "," } else cat [",", space]

/-- The comma behind an item, or a space behind the last one. -/
def commaOrSpace (isLast : Bool) : Document :=
  if isLast then place { placeOf 1 with before := "," } else cat [",", space]

/-! ## Boxes -/

/-- Moves the last place, if a document ends in one. -/
def shiftLast (amount : Int) : List Piece → List Piece
  | [] => []
  | [.breakPoint p] => [.breakPoint { p with shift := p.shift + amount }]
  | [piece] => [piece]
  | piece :: next :: rest => piece :: shiftLast amount (next :: rest)

/-- Parts whose last place goes back by one step. -/
def outdented (parts : List Document) : Document := ⟨shiftLast (-step) (cat parts).pieces⟩

/-- Leaves out a place at the end that needs more behind it. -/
def dropUnneeded : List Piece → List Piece
  | [] => []
  | [.breakPoint p] => if p.needsMore then [] else [.breakPoint p]
  | [piece] => [piece]
  | piece :: next :: rest => piece :: dropUnneeded (next :: rest)

/-- Puts pieces into a box. -/
def box (indent : Int) (breaking : Breaking) (content : List Piece) : Document :=
  match content with
  | [.breakPoint _] => empty
  | _ => ⟨.opening indent breaking :: dropUnneeded content ++ [.closing]⟩

/-- A box that ends a line at all of its places or at none. -/
def consistent (indent : Int) (parts : List Document) : Document :=
  box indent .consistent (cat parts).pieces

/-- A box that ends a line where the next part would not fit. -/
def inconsistent (indent : Int) (parts : List Document) : Document :=
  box indent .inconsistent (cat parts).pieces

/-! ## Widths -/

/-- A text that begins with a dot, behind another text. -/
def spacedDots (last content : String) : String :=
  if last.endsWith "." then " " ++ content else content

/-- The width of a piece on a line that goes on. -/
def pieceWidth : Piece → Nat
  | .text content => content.utf8ByteSize
  | .dotted content => content.utf8ByteSize
  | .breakPoint p => p.blank
  | .opening .. => 0
  | .closing => 0
  | .overflow => infinity
  | .hollow p => p.blank

/-- Spaces in front of dots behind a text. -/
def separateDots (last : String) : List Piece → List Piece
  | [] => []
  | .dotted content :: rest =>
    let spaced := spacedDots last content
    .text spaced :: separateDots spaced rest
  | .text content :: rest => .text content :: separateDots content rest
  | piece :: rest => piece :: separateDots last rest

/-- The width of pieces on a line that goes on. -/
def width : List Piece → Nat
  | [] => 0
  | piece :: rest => pieceWidth piece + width rest

/-- Content that is too wide for one line. -/
def tooWide : List Piece → List Piece
  | [] => [.overflow]
  | [.breakPoint p] => if p.needsMore then [.hollow p] else [.breakPoint p, .overflow]
  | piece :: rest => piece :: tooWide rest

/-- A consistent box that also ends its lines if its content is wider than `limit`. -/
def consistentUpTo (limit : Nat) (indent : Int) (parts : List Document) : Document :=
  let content := separateDots "" (cat parts).pieces
  box indent .consistent (if width content > limit then tooWide content else content)

/-! ## Sequences -/

/-- Items with a separator behind each, which is told whether the item is the last one. -/
def delimited (separator : Bool → Document) : List Document → List Document
  | [] => []
  | [item] => [item, separator true]
  | item :: next :: rest => item :: separator false :: delimited separator (next :: rest)

/-- Items with a separator between two. -/
def joined (separator : Document) (items : List Document) : Document :=
  cat (items.intersperse separator)

end Document

end RouteRegistrar
