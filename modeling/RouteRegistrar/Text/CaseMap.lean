import RouteRegistrar.Text.Table.Case

/-!
# Upper and lower case

The full case mappings of Unicode: a character maps to one or more characters. Lowercasing a text
has one rule that looks at the neighbours: a capital sigma at the end of a word becomes the final
form of the small sigma.
-/

namespace RouteRegistrar.Text

open Table (CaseRun)

/-- The offset that the runs give to a code point. -/
def runOffset : List CaseRun → Nat → Int
  | [], _ => 0
  | run :: rest, code =>
    if code < run.first then 0
    else if code ≤ run.last && (code - run.first) % run.step = 0 then run.offset
    else runOffset rest code

/-- Maps one character by a table of runs and a table of expansions. -/
def mapCase (runs : List CaseRun) (expansions : List (Nat × List Nat)) (c : Char) : List Char :=
  match expansions.lookup c.toNat with
  | some codes => codes.map Char.ofNat
  | none => [Char.ofNat ((c.toNat : Int) + runOffset runs c.toNat).toNat]

/-- Uppercase form of a character. ASCII letters need no table. -/
def upperChar (c : Char) : List Char :=
  if c.toNat < 128 then [c.toUpper] else mapCase Table.upperRuns Table.upperExpansions c

/-- Lowercase form of a character on its own. ASCII letters need no table. -/
def lowerChar (c : Char) : List Char :=
  if c.toNat < 128 then [c.toLower] else mapCase Table.lowerRuns Table.lowerExpansions c

/-- The first character that is not ignored by casing is cased. -/
def meetsCased : List Char → Bool
  | [] => false
  | c :: rest =>
    if Table.caseIgnorable.contains c.toNat then meetsCased rest
    else Table.cased.contains c.toNat

/-- Lowercases a text whose earlier characters are given in reverse. -/
def lowerFrom (before : List Char) : List Char → List Char
  | [] => []
  | c :: rest =>
    if c = 'Σ' then
      (if meetsCased before && !meetsCased rest then 'ς' else 'σ') :: lowerFrom (c :: before) rest
    else lowerChar c ++ lowerFrom (c :: before) rest

/-- Lowercase form of a text. -/
def lower (cs : List Char) : List Char := lowerFrom [] cs

/-- Uppercase form of a text. -/
def upper (cs : List Char) : List Char := cs.flatMap upperChar

/-- Lowercase form of the ASCII letters of a string. -/
def lowerAscii (s : String) : String := s.map Char.toLower

end RouteRegistrar.Text
