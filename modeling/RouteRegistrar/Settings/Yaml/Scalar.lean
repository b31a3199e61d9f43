import RouteRegistrar.Settings.Yaml.Place

/-!
# Scalars

A scalar is written plainly, between quotes, or as a block of lines below `|` or `>`. Plain and
quoted scalars may go on over several lines: one line break counts as a blank, several as one line
break less. The lines of a block are kept as they stand behind `|`; behind `>` they are joined, save
those that are indented further.
-/

namespace RouteRegistrar.Settings.Yaml

open Scan

/-! ## Gaps between words -/

/-- What a gap between two words counts as. -/
def joint (gap : List Char) : List Char :=
  match countBreaks gap with
  | 0 => gap
  | 1 => [' ']
  | breaks + 2 => List.replicate (breaks + 1) '\n'

/-- Takes blanks and line breaks. -/
def gap : Scan (List Char) := Scan.run fun c => isBlank c || isBreak c

/-! ## Plain scalars -/

/-- The characters of a word, and what is left. A word in a flow collection ends at its marks. -/
def word (isFlow : Bool) : List Place → List Char × List Place
  | [] => ([], [])
  | place :: rest =>
    let next := charAt rest 0
    if isGap place.char then ([], place :: rest)
    else if place.char = ':' && (isGap next || isFlow && isFlowMark next) then ([], place :: rest)
    else if isFlow && isFlowMark place.char then ([], place :: rest)
    else
      let (more, left) := word isFlow rest
      (place.char :: more, left)

/-- Whether a gap has a tab in the indentation of a line. -/
def hasIndentingTab (least : Nat) (gap : List Place) : Bool :=
  (gap.dropWhile (!isBreak ·.char)).any fun place => place.char = '\t' && place.column < least

/-- A plain scalar: its text, and whether a line ended behind it. -/
structure Plain where
  content : List Char
  endsLine : Bool

/-- Takes words with the gaps between them. Outside of flow collections the lines of a plain scalar
are indented at least by `least`. -/
def words (isFlow : Bool) (least : Nat) : Nat → List Place → Option (Plain × List Place)
  | 0, places => some (⟨[], false⟩, places)
  | fuel + 1, places =>
    if atDocument places || charAt places 0 = '#' then some (⟨[], false⟩, places)
    else
      let (head, behind) := word isFlow places
      let isInGap (place : Place) : Bool := isBlank place.char || isBreak place.char
      let between := behind.takeWhile isInGap
      let left := behind.dropWhile isInGap
      let blanks := between.map (·.char)
      let column := (left.head?.map (·.column)).getD 0
      if between.isEmpty then some (⟨head, false⟩, behind)
      else if hasIndentingTab least between then none
      else if !isFlow && column < least then some (⟨head, countBreaks blanks > 0⟩, left)
      else
        (words isFlow least fuel left).map fun (more, left) =>
          if more.content.isEmpty then (⟨head, countBreaks blanks > 0⟩, left)
          else (⟨head ++ joint blanks ++ more.content, more.endsLine⟩, left)

/-- Takes a plain scalar. -/
def plain (isFlow : Bool) (least : Nat) : Scan Plain := fun places =>
  words isFlow least places.length places

/-! ## Quoted scalars -/

/-- The character that a one-letter escape stands for. -/
def letterEscape? : Char → Option Char
  | '0' => some '\x00'
  | 'a' => some '\x07'
  | 'b' => some '\x08'
  | 't' => some '\t'
  | '\t' => some '\t'
  | 'n' => some '\n'
  | 'v' => some '\x0b'
  | 'f' => some '\x0c'
  | 'r' => some '\r'
  | 'e' => some '\x1b'
  | ' ' => some ' '
  | '"' => some '"'
  | '\'' => some '\''
  | '\\' => some '\\'
  | 'N' => some '\u0085'
  | '_' => some '\u00a0'
  | 'L' => some '\u2028'
  | 'P' => some '\u2029'
  | _ => none

/-- Takes an escape. An escaped line break is nothing, with the blanks behind it; the line breaks
behind it are kept. -/
def escape : Scan (List Char) := do
  skip 1
  let letter ← peek
  if isBreak letter then
    lineBreak
    return List.replicate (countBreaks (← gap)) '\n'
  else
    skip 1
    match letter with
    | 'x' => return [← Text.charOfCode? (← hexNumber 2)]
    | 'u' => return [← Text.charOfCode? (← hexNumber 4)]
    | 'U' => return [← Text.charOfCode? (← hexNumber 8)]
    | _ =>
      match letterEscape? letter with
      | some meaning => return [meaning]
      | none => failure

/-- Takes the rest of a scalar that ends with a quote. No document may begin or end in it. -/
def quotedRest (quote : Char) : Nat → Scan (List Char)
  | 0 => failure
  | fuel + 1 => fun places =>
    let c := charAt places 0
    let within (part : Scan (List Char)) : Option (List Char × List Place) := do
      let (head, left) ← part places
      let (more, left) ← quotedRest quote fuel left
      return (head ++ more, left)
    if atDocument places || c = endMark then none
    else if isBlank c || isBreak c then within (joint <$> gap)
    else if c = '\'' && quote = '\'' && charAt places 1 = '\'' then
      within (do skip 2; return ['\''])
    else if c = quote then some ([], places.drop 1)
    else if c = '\\' && quote = '"' then within escape
    else within (do skip 1; return [c])

/-- Takes a scalar between quotes. -/
def quoted (quote : Char) : Scan String := fun places =>
  ((do skip 1; quotedRest quote places.length) places).map fun (content, left) =>
    (String.ofList content, left)

/-! ## Blocks of lines -/

/-- How a block treats line breaks at its end. -/
inductive Chomping where
  | strip
  | clip
  | keep
  deriving DecidableEq, Repr

/-- How far the lines of a block are indented further than what is around it. Not every block says
so; there is no indentation by zero. -/
def indentMark? (c : Char) : Option Nat :=
  if '1' ≤ c && c ≤ '9' then some (Decimal.ofDigits [c]) else none

/-- What a sign behind `|` or `>` says about line breaks at the end. -/
def chompingMark? : Char → Option Chomping
  | '-' => some .strip
  | '+' => some .keep
  | _ => none

/-- What stands behind `|` or `>`. -/
structure BlockHeader where
  chomping : Chomping
  indent : Option Nat

/-- Takes what stands behind `|` or `>`: a sign and a digit, in any order. -/
def blockHeader : Scan BlockHeader := do
  let first ← peek
  match chompingMark? first, indentMark? first with
  | some chomping, _ => do
    skip 1
    let indent := indentMark? (← peek)
    if indent.isSome then skip 1
    return ⟨chomping, indent⟩
  | none, some indent => do
    skip 1
    let chomping := chompingMark? (← peek)
    if chomping.isSome then skip 1
    return ⟨chomping.getD .clip, some indent⟩
  | none, none => return ⟨.clip, none⟩

/-- Empty lines: how many there are, and how far the line behind them or one of them is indented. -/
structure EmptyLines where
  count : Nat
  indent : Nat

/-- Takes empty lines and the indentation behind them, at most `limit` columns of it. There may be
no tab in it. -/
def emptyLines (limit : Option Nat) : Nat → EmptyLines → Scan EmptyLines
  | 0, _ => failure
  | fuel + 1, taken => fun places =>
    let isInside (place : Place) : Bool := limit.all (place.column < ·)
    let left := places.dropWhile fun place => place.char = ' ' && isInside place
    let column := (left.head?.map (·.column)).getD 0
    let taken := { taken with indent := max taken.indent column }
    if left.head?.any fun place => place.char = '\t' && isInside place then none
    else if isBreak (charAt left 0) then
      (do lineBreak; emptyLines limit fuel { taken with count := taken.count + 1 }) left
    else some (taken, left)

/-- How the lines of a block are joined. -/
structure BlockStyle where
  isFolded : Bool
  chomping : Chomping
  indent : Nat

/-- The line breaks between two lines of a block, one of them at the end of a line of text. In a
folded block, where neither line begins with a blank, a single one counts as a blank. -/
def lineJoint (style : BlockStyle) (betweenWords : Bool) (emptyLines : Nat) : List Char :=
  let breaks := List.replicate emptyLines '\n'
  if style.isFolded && betweenWords then if emptyLines = 0 then [' '] else breaks
  else '\n' :: breaks

/-- The line breaks at the end of a block. -/
def lastBreaks (style : BlockStyle) (emptyLines : Nat) : List Char :=
  match style.chomping with
  | .strip => []
  | .clip => ['\n']
  | .keep => List.replicate (emptyLines + 1) '\n'

/-- Takes the lines of a block behind its first one, which began with a blank or not. -/
def blockLines (style : BlockStyle) (wasBlank : Bool) : Nat → Scan (List Char)
  | 0 => failure
  | fuel + 1 => do
    if (← peek) = endMark then return []
    lineBreak
    let empty ← emptyLines (some style.indent) ((← get).length) ⟨0, 0⟩
    let next ← peek
    if (← place).column = style.indent && next ≠ endMark then
      let content ← Scan.run (!endsLine ·)
      let more ← blockLines style (isBlank next) fuel
      return lineJoint style (!wasBlank && !isBlank next) empty.count ++ content ++ more
    else return lastBreaks style empty.count

/-- Takes a block below a line. `outer` is the column of what is around it. -/
def block (isFolded : Bool) (outer : Option Nat) : Scan String := do
  skip 1
  let header ← blockHeader
  lineEnd
  lineBreak
  let given := header.indent.map (outer.getD 0 + ·)
  let empty ← emptyLines given ((← get).length) ⟨0, 0⟩
  let least := max 1 (outer.elim 0 (· + 1))
  let style := ⟨isFolded, header.chomping, given.getD (max empty.indent least)⟩
  let first ← peek
  let breaks := List.replicate empty.count '\n'
  if (← place).column = style.indent && first ≠ endMark then
    let content ← Scan.run (!endsLine ·)
    let more ← blockLines style (isBlank first) ((← get).length)
    return String.ofList (breaks ++ content ++ more)
  else return String.ofList (if style.chomping = .keep then breaks else [])

end RouteRegistrar.Settings.Yaml
