import RouteRegistrar.Text.Table.Identifier
import RouteRegistrar.Text.Table.Letter
import RouteRegistrar.Text.Table.Mark
import RouteRegistrar.Text.Table.Printable

/-!
# Character classes

The classes that names, tokens and string literals are made of, each a predicate on `Char`, and the
two operations on text that follow from a class alone: removing surrounding blanks and removing a
surrounding character.
-/

namespace RouteRegistrar.Text

/-- A character that may begin an identifier. -/
def isIdStart (c : Char) : Bool := Table.idStart.contains c.toNat

/-- A character that may continue an identifier. -/
def isIdContinue (c : Char) : Bool := Table.idContinue.contains c.toNat

/-- A letter or a number of any script. -/
def isAlphanumeric (c : Char) : Bool := Table.alphanumeric.contains c.toNat

/-- Code points with the property `White_Space`. -/
def blankRanges : Ranges := [
  (0x9, 0xd), (0x20, 0x20), (0x85, 0x85), (0xa0, 0xa0), (0x1680, 0x1680), (0x2000, 0x200a),
  (0x2028, 0x2029), (0x202f, 0x202f), (0x205f, 0x205f), (0x3000, 0x3000)]

/-- A blank of any script. -/
def isBlank (c : Char) : Bool := blankRanges.contains c.toNat

/-- A character with a visible form, or the plain space. -/
def isPrintable (c : Char) : Bool := !Table.unprintable.contains c.toNat

/-- A character that extends the grapheme before it. -/
def isExtending (c : Char) : Bool := Table.graphemeExtend.contains c.toNat

/-- A decimal digit of ASCII. -/
def isDigit (c : Char) : Bool := '0' ≤ c && c ≤ '9'

/-- The value of a hexadecimal digit of ASCII. -/
def hexValue? (c : Char) : Option Nat :=
  if '0' ≤ c && c ≤ '9' then some (c.toNat - '0'.toNat)
  else if 'a' ≤ c && c ≤ 'f' then some (c.toNat - 'a'.toNat + 10)
  else if 'A' ≤ c && c ≤ 'F' then some (c.toNat - 'A'.toNat + 10)
  else none

/-- The character of a code point, unless it is a surrogate or too large. -/
def charOfCode? (n : Nat) : Option Char :=
  if n.isValidChar then some (Char.ofNat n) else none

/-- A nonempty text that begins like an identifier and continues like one. -/
def isIdentifier : List Char → Bool
  | [] => false
  | c :: rest => isIdStart c && rest.all isIdContinue

/-! ## Trimming -/

/-- Removes the characters of a class at both ends. -/
def trimBy (p : Char → Bool) (cs : List Char) : List Char :=
  ((cs.dropWhile p).reverse.dropWhile p).reverse

/-- A text that neither begins nor ends with a character of the class stays as it is. -/
theorem trimBy_eq_self {p : Char → Bool} {cs : List Char} (hfirst : ∀ c ∈ cs.head?, p c = false)
    (hlast : ∀ c ∈ cs.getLast?, p c = false) : trimBy p cs = cs := by
  have hdrop : ∀ ds : List Char, (∀ c ∈ ds.head?, p c = false) → ds.dropWhile p = ds := by
    intro ds hds
    cases ds with
    | nil => rfl
    | cons d rest => exact List.dropWhile_cons_of_neg (by simp [hds d rfl])
  rw [← List.head?_reverse] at hlast
  rw [trimBy, hdrop cs hfirst, hdrop cs.reverse hlast, List.reverse_reverse]

/-- Removes surrounding blanks. -/
def trim (cs : List Char) : List Char := trimBy isBlank cs

/-- Removes surrounding blanks of a string. -/
def trimString (s : String) : String := String.ofList (trim s.toList)

/-- Splits a text at every occurrence of a character. -/
def splitOn (sep : Char) : List Char → List (List Char)
  | [] => [[]]
  | c :: rest =>
    if c = sep then [] :: splitOn sep rest
    else
      match splitOn sep rest with
      | [] => [[c]]
      | part :: parts => (c :: part) :: parts

end RouteRegistrar.Text
