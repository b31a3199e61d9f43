import RouteRegistrar.Text.CaseMap
import RouteRegistrar.Text.CharClass

/-!
# Words of a name

A name in any case convention is a list of words. The name is read as grapheme clusters; words end
at separators, which are dropped, and at certain changes between lower case, upper case and digits.
The snake form joins the lowercased words with low lines, the Pascal form capitalises each word.
-/

namespace RouteRegistrar.Text

/-! ## Grapheme clusters -/

/-- A base character with what attaches to it. -/
abbrev Cluster := List Char

/-- A character joins the cluster before it if it attaches to a base, or if that cluster so far
holds only leading characters. Line breaks and other controls neither lead nor take marks. -/
def joinsCluster (previous c : Char) : Bool :=
  (Table.attaching.contains c.toNat && !isControl previous) ||
    (Table.leading.contains previous.toNat && !isControl c) ||
    (previous = '\r' && c = '\n')
where
  /-- Control characters stand alone. -/
  isControl (c : Char) : Bool := c.toNat < 0x20 || (0x7f ≤ c.toNat && c.toNat < 0xa0) ||
    c.toNat = 0x2028 || c.toNat = 0x2029

/-- Cuts a text into clusters. -/
def clusters : List Char → List Cluster
  | [] => []
  | c :: rest =>
    match rest, clusters rest with
    | d :: _, cluster :: more =>
      if joinsCluster c d then (c :: cluster) :: more else [c] :: cluster :: more
    | _, more => [c] :: more

/-! ## Word boundaries -/

/-- A low line, a hyphen or a space on its own separates words and belongs to none. -/
def isSeparator (k : Cluster) : Bool := k = ['_'] || k = ['-'] || k = [' ']

/-- Digits are those of ASCII. -/
def isDigitCluster (k : Cluster) : Bool := k.all isDigit

/-- A cluster with case that is its own uppercase form. -/
def isUpperCluster (k : Cluster) : Bool := upper k != lower k && k = upper k

/-- A cluster with case that is its own lowercase form. -/
def isLowerCluster (k : Cluster) : Bool := upper k != lower k && k = lower k

/-- A word ends between two neighbours of different kinds; an upper case letter ends no word before
a lower case one. -/
def changesKind (k l : Cluster) : Bool :=
  (isLowerCluster k && isUpperCluster l) ||
    (isUpperCluster k && isDigitCluster l) || (isDigitCluster k && isUpperCluster l) ||
    (isDigitCluster k && isLowerCluster l) || (isLowerCluster k && isDigitCluster l)

/-- A run of capitals gives its last one to a following lower case letter. -/
def endsAcronym (k l m : Cluster) : Bool :=
  isUpperCluster k && isUpperCluster l && isLowerCluster m

/-- Adds a cluster in front of the first word. -/
def consWord (k : Cluster) : List (List Char) → List (List Char)
  | [] => [k]
  | word :: words => (k ++ word) :: words

/-- Cuts a list of clusters into words, some of them empty. -/
def cutWords : List Cluster → List (List Char)
  | [] => [[]]
  | k :: rest =>
    if isSeparator k then [] :: cutWords rest
    else
      match rest with
      | l :: m :: _ =>
        if changesKind k l || endsAcronym k l m then k :: cutWords rest
        else consWord k (cutWords rest)
      | [l] => if changesKind k l then k :: cutWords rest else consWord k (cutWords rest)
      | [] => consWord k (cutWords rest)

/-- The words of a name. -/
def words (cs : List Char) : List (List Char) :=
  (cutWords (clusters cs)).filter (!·.isEmpty)

/-! ## Case conventions -/

/-- Uppercases the first character of a word and lowercases the rest. -/
def capitalize : List Char → List Char
  | [] => []
  | c :: rest => upperChar c ++ lower rest

/-- Lowercased words joined with low lines. -/
def snakeCase (cs : List Char) : List Char :=
  ['_'].intercalate ((words cs).map lower)

/-- Capitalised words written together. -/
def pascalCase (cs : List Char) : List Char :=
  ((words cs).map capitalize).flatten

end RouteRegistrar.Text
