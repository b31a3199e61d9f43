import RouteRegistrar.Document.Basic

/-!
# Breaking a document into lines

First every box and every place is measured: a box up to the first place behind it that lies on the
level around it, a place up to the next place of its own level or of a level around it. Then the
pieces are written in order. A box that does not fit into what is left of the line is broken, and
only broken boxes end lines.

Widths count the bytes of a text. A line has at most `margin` columns, but whatever its indentation,
there is room for `minimum` columns on it.
-/

namespace RouteRegistrar.Document

/-- The number of columns of a line. -/
def margin : Int := 89

/-- The number of columns that a line has behind its indentation at least. -/
def minimum : Int := 60

/-! ## Measuring -/

/-- A position while measuring from the end: the width of all that follows, and for each level that
is open here, from the innermost, the width of what follows its next place. -/
structure Remaining where
  width : Nat
  levels : List Nat

/-- What follows the next place of the innermost level. -/
def Remaining.next (remaining : Remaining) : Nat := remaining.levels.headD 0

/-- Moves over a piece, backwards, and measures it. -/
def measure (piece : Piece) (remaining : Remaining) : Nat × Remaining :=
  match piece with
  | .text content | .dotted content =>
    let w := content.utf8ByteSize
    (w, { remaining with width := remaining.width + w })
  | .overflow => (infinity, { remaining with width := remaining.width + infinity })
  | .breakPoint p | .hollow p =>
    let w := remaining.width + p.blank
    (w - remaining.next, ⟨w, w :: remaining.levels.drop 1⟩)
  | .closing => (0, { remaining with levels := remaining.next :: remaining.levels })
  | .opening .. =>
    let outer := remaining.levels.drop 1
    (remaining.width - outer.headD 0, { remaining with levels := outer })

/-- All pieces with their sizes, and what remains in front of the first one. -/
def measureAll : List Piece → List (Piece × Nat) × Remaining
  | [] => ([], ⟨0, [0]⟩)
  | piece :: rest =>
    let (measured, remaining) := measureAll rest
    let (size, before) := measure piece remaining
    ((piece, size) :: measured, before)

/-! ## Writing -/

/-- A box that is being written. -/
inductive Frame where
  /-- The box is on one line. -/
  | fits
  /-- The box is broken. The indentation of what is around it is kept. -/
  | broken (outer : Int) (breaking : Breaking)
  deriving DecidableEq, Repr

/-- A position while writing. -/
structure Cursor where
  /-- What has been written. -/
  written : String
  /-- Columns left on the line. -/
  room : Int
  /-- The indentation of the innermost broken box. -/
  indent : Int
  /-- Spaces that are written as soon as text follows. -/
  pending : Nat
  /-- The open boxes from the innermost. -/
  frames : List Frame

namespace Cursor

/-- The beginning of a document. -/
def start : Cursor := ⟨"", margin, 0, 0, []⟩

/-- Writes the spaces that are due and a text, which may use up room. -/
def write (cursor : Cursor) (content : String) (used : Nat) : Cursor :=
  { cursor with
    written := (cursor.written.pushn ' ' cursor.pending) ++ content
    room := cursor.room - used
    pending := 0 }

/-- Writes text that may be empty, without spaces in front if it is. -/
def writeAny (cursor : Cursor) (content : String) (used : Nat) : Cursor :=
  if content.isEmpty then cursor else cursor.write content used

/-- Whether the line goes on at a place of a given size. -/
def staysOnLine (cursor : Cursor) (p : BreakPoint) (size : Nat) : Bool :=
  p.never || match cursor.frames.headD (.broken 0 .inconsistent) with
    | .fits => true
    | .broken _ .consistent => false
    | .broken _ .inconsistent => size ≤ cursor.room

/-- Goes on with the line at a place. Spaces in front of `otherwise` are still due behind it. -/
def goOn (cursor : Cursor) (p : BreakPoint) : Cursor :=
  { cursor with
    written := cursor.written ++ p.otherwise
    room := cursor.room - p.blank - p.otherwise.utf8ByteSize
    pending := cursor.pending + p.blank }

/-- Ends the line at a place. -/
def endLine (cursor : Cursor) (p : BreakPoint) : Cursor :=
  let ended := cursor.writeAny p.before 0
  let indent := ended.indent + p.shift
  let next : Cursor :=
    { ended with
      written := ended.written.push '\n'
      room := max (margin - indent) minimum
      pending := indent.toNat }
  next.writeAny p.behind p.behind.utf8ByteSize

/-- Opens a box of a given size. -/
def openBox (cursor : Cursor) (indent : Int) (breaking : Breaking) (size : Nat) : Cursor :=
  if size > cursor.room then
    { cursor with
      indent := cursor.indent + indent
      frames := .broken cursor.indent breaking :: cursor.frames }
  else { cursor with frames := .fits :: cursor.frames }

/-- Closes the innermost box. -/
def closeBox (cursor : Cursor) : Cursor :=
  match cursor.frames with
  | .broken outer _ :: rest => { cursor with indent := outer, frames := rest }
  | .fits :: rest => { cursor with frames := rest }
  | [] => cursor

/-- Writes a piece of a given size. -/
def advance (cursor : Cursor) : Piece × Nat → Cursor
  | (.text content, size) | (.dotted content, size) => cursor.write content size
  | (.overflow, _) => cursor
  | (.breakPoint p, size) | (.hollow p, size) =>
    if cursor.staysOnLine p size then cursor.goOn p else cursor.endLine p
  | (.opening indent breaking, size) => cursor.openBox indent breaking size
  | (.closing, _) => cursor.closeBox

end Cursor

/-- The position behind all pieces. -/
def written (pieces : List Piece) : Cursor :=
  (measureAll pieces).1.foldl Cursor.advance .start

/-! ## Pieces that depend on what is in front of them -/

/-- Whether the innermost open box is broken by the pieces so far. -/
def isBroken (pieces : List Piece) : Bool :=
  match (written pieces).frames with
  | .broken .. :: _ => true
  | _ => false

/-- Decides for every hollow place whether it vanishes or breaks its box. `done` holds the pieces in
front, the last one first. -/
def settle (done : List Piece) : List Piece → List Piece
  | [] => done.reverse
  | .hollow p :: rest =>
    settle (if isBroken done.reverse then done else .overflow :: .breakPoint p :: done) rest
  | piece :: rest => settle (piece :: done) rest

/-- The text of a document. -/
def render (document : Document) : String :=
  (written (settle [] (separateDots "" document.pieces))).written

end RouteRegistrar.Document
