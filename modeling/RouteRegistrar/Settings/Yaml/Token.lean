import RouteRegistrar.Settings.Yaml.Scalar

/-!
# Tokens of a document

What a document consists of: marks, names, scalars, and the beginnings and ends of blocks, which
follow from indentation. A key is known only by the colon behind it, so the place of what may be a
key is kept as a candidate until then; its token is put in front of it afterwards. A key and its
colon stand on one line, at most 1024 characters apart.
-/

namespace RouteRegistrar.Settings.Yaml

/-- A token of a document. -/
inductive Token where
  | directive
  | documentStart
  | documentEnd
  | streamEnd
  | blockList
  | blockTable
  | blockEnd
  | dash
  | flowList
  | flowListEnd
  | flowTable
  | flowTableEnd
  | comma
  | key
  | value
  | anchor (name : String)
  | reference (name : String)
  /-- A tag. Only those written `!!` have a name that counts. -/
  | tag (name : Option String)
  | scalar (isPlain : Bool) (content : String)
  deriving DecidableEq, Repr

/-! ## Names, tags and directives -/

namespace Scan

/-- Takes the name behind `&` or `*`. -/
def anchorName : Scan String := do
  skip 1
  let name ← run isNamePart
  let next ← peek
  if name.isEmpty then failure
  if !(isGap next || ['?', ':', ',', ']', '\x7d', '%', '@', '\x60'].contains next) then failure
  return String.ofList name

/-- A character of an address. -/
def isAddressPart (c : Char) : Bool := isNamePart c || ";/?:@&=+$,.!~*'()[]%".toList.contains c

/-- Takes a percent sign with the number of an octet. -/
def octet : Scan Nat := do
  char '%'
  hexNumber 2

/-- How many octets a character has whose first one is given. -/
def width? (lead : Nat) : Option Nat :=
  if lead < 0x80 then some 1
  else if 0xc0 ≤ lead && lead < 0xe0 then some 2
  else if 0xe0 ≤ lead && lead < 0xf0 then some 3
  else if 0xf0 ≤ lead && lead < 0xf8 then some 4
  else none

/-- Takes a number of further octets. All bits of all octets make up the code point. -/
def octets (code : Nat) : Nat → Scan Nat
  | 0 => return code
  | count + 1 => do
    let next ← octet
    if next < 0x80 || 0xc0 ≤ next then failure
    octets (code * 0x100 + next) count

/-- Takes a character that is written by its octets. -/
def encodedChar : Scan Char := do
  let lead ← octet
  let code ← octets lead ((← width? lead) - 1)
  Text.charOfCode? code

/-- Takes an address. -/
def address : Nat → Scan (List Char)
  | 0 => return []
  | fuel + 1 => do
    let c ← peek
    if !isAddressPart c then return []
    let head ← if c = '%' then encodedChar else skip 1 *> pure c
    return head :: (← address fuel)

/-- Takes an address that is not empty. -/
def address1 : Scan (List Char) := fun places => do
  let (content, left) ← address places.length places
  if content.isEmpty then none else some (content, left)

/-- Takes a handle: letters between two exclamation marks, or behind one. Says whether there is a
second one. -/
def handle : Scan (List Char × Bool) := do
  char '!'
  let name ← run isNamePart
  let isClosed := (← peek) = '!'
  if isClosed then skip 1
  return (name, isClosed)

/-- Takes a tag: an address in angle brackets, or a handle with an address behind it. -/
def tag : Scan Token := do
  let name ← (fun places =>
    if charAt places 1 = '<' then (do
      skip 2
      discard address1
      char '>'
      return none) places
    else (do
      let (name, isClosed) ← handle
      if isClosed then
        let content ← address1
        return if name.isEmpty then some (String.ofList content) else none
      else
        discard (address (← get).length)
        return none) places)
  if !isGap (← peek) then failure
  return .tag name

/-- Takes a number of at most nine digits. -/
def versionNumber : Scan Unit := do
  let digits ← run Text.isDigit
  if digits.isEmpty || 9 < digits.length then failure

/-- Takes a directive. One that is not known may say anything. -/
def directive : Scan Token := do
  skip 1
  let name ← run isNamePart
  if name.isEmpty || !isGap (← peek) then failure
  match String.ofList name with
  | "YAML" => do
    discard (run isBlank)
    versionNumber
    char '.'
    versionNumber
  | "TAG" => do
    discard (run isBlank)
    let (name, isClosed) ← handle
    if !isClosed && !name.isEmpty then failure
    discard (run isBlank)
    discard address1
    if !isGap (← peek) then failure
  | _ => discard (run (!endsLine ·))
  lineEnd
  lineBreak
  return .directive

end Scan

/-! ## Blocks and candidates for keys -/

/-- What may turn out to be a key: the number of its token and its place. -/
structure Candidate where
  token : Nat
  place : Place
  isRequired : Bool
  deriving Repr

/-- How far the tokens of a document are known. There is a candidate, or none, for each flow
collection around, and one for the block around them. -/
structure Outline where
  tokens : Array Token
  indent : Option Nat
  outer : List (Option Nat)
  candidates : List (Option Candidate)
  mayBeginKey : Bool
  quoteEnd : Nat
  deriving Repr

namespace Outline

/-- The outline of nothing. -/
def empty : Outline := ⟨#[], none, [], [none], true, 0⟩

/-- Whether there is a flow collection around. -/
def isInFlow (outline : Outline) : Bool := outline.candidates.length > 1

/-- The deepest nesting of flow collections. -/
def maxFlowDepth : Nat := 255

/-- Adds a token. -/
def push (token : Token) (outline : Outline) : Outline :=
  { outline with tokens := outline.tokens.push token }

/-- Says whether a key may begin at what follows. -/
def allowKey (mayBeginKey : Bool) (outline : Outline) : Outline := { outline with mayBeginKey }

/-- Begins a block at a column further right. Its token stands in front of a token of some number,
or behind all. -/
def openBlock (column : Nat) (before : Option Nat) (token : Token) (outline : Outline) : Outline :=
  if outline.isInFlow || outline.indent.any (column ≤ ·) then outline
  else
    let position := before.getD outline.tokens.size
    { outline with
      tokens := outline.tokens.insertIdxIfInBounds position token
      indent := some column
      outer := outline.indent :: outline.outer }

/-- Ends the blocks that began at columns further right. -/
def closeWithin (column : Option Nat) : List (Option Nat) → Outline → Outline
  | [], outline => outline
  | next :: outer, outline =>
    if outline.indent.any fun indent => column.all (· < indent) then
      closeWithin column outer { (outline.push .blockEnd) with indent := next, outer }
    else outline

/-- Ends the blocks that began at columns further right than a column, or all. -/
def closeBlocks (column : Option Nat) (outline : Outline) : Outline :=
  if outline.isInFlow then outline else closeWithin column outline.outer outline

end Outline

/-! ## Readers of tokens -/

/-- Takes tokens from the beginning of a document. -/
abbrev Scanner := StateT Outline Scan

namespace Scanner

open Scan

/-- How many characters there may be between the beginning of a key and its colon. -/
def maxKeyLength : Nat := 1024

/-- Gives up the candidates from which no colon can be reached. -/
def dropStale : Scanner Unit := do
  let here ← place
  let isStale (candidate : Candidate) : Bool :=
    candidate.place.line < here.line || candidate.place.index + maxKeyLength < here.index
  let kept ← (← get).candidates.mapM fun candidate? =>
    match candidate? with
    | some candidate =>
      if !isStale candidate then return some candidate
      else if candidate.isRequired then failure
      else return none
    | none => return none
  modify ({ · with candidates := kept })

/-- Replaces the innermost candidate, which must not be one that has to be a key. -/
def setCandidate (next : Option Candidate) : Scanner Unit := do
  match (← get).candidates with
  | last :: outer =>
    if last.any (·.isRequired) then failure
    modify ({ · with candidates := next :: outer })
  | [] => failure

/-- Makes a candidate of the next token, where a key may begin. -/
def saveCandidate : Scanner Unit := do
  let outline ← get
  if outline.mayBeginKey then
    let here ← place
    let isRequired := outline.isInFlow && outline.indent = some here.column
    setCandidate (some ⟨outline.tokens.size, here, isRequired⟩)

/-- Skips blanks, line breaks and comments. A tab is no blank where a key may begin in a block. -/
def skipGap : Nat → Scanner Unit
  | 0 => return
  | fuel + 1 => do
    let outline ← get
    let c ← peek
    if c = ' ' || c = '\t' && (outline.isInFlow || !outline.mayBeginKey) then
      skip 1
      skipGap fuel
    else if isBreak c then
      lineBreak
      if !outline.isInFlow then modify (·.allowKey true)
      skipGap fuel
    else if c = '#' then
      discard (Scan.run (!endsLine ·))
      skipGap fuel

/-- Takes what may be a key, with a token of its own. -/
def candidate (mayBeginKeyBehind : Bool) (token : Scan Token) : Scanner Unit := do
  saveCandidate
  modify (·.allowKey mayBeginKeyBehind)
  let token ← token
  modify (·.push token)

/-- Takes a mark that is no key. -/
def mark (length : Nat) (token : Token) (mayBeginKeyBehind : Bool) : Scanner Unit := do
  setCandidate none
  skip length
  modify fun outline => (outline.push token).allowKey mayBeginKeyBehind

/-- Takes a directive or a mark between documents, which ends all blocks. -/
def boundary (token : Scan Token) : Scanner Unit := do
  modify (·.closeBlocks none)
  setCandidate none
  modify (·.allowKey false)
  let token ← token
  modify (·.push token)

/-- Takes the beginning of a flow collection. -/
def beginFlow (token : Token) : Scanner Unit := do
  saveCandidate
  if Outline.maxFlowDepth < (← get).candidates.length then failure
  skip 1
  modify fun outline =>
    { outline.push token with
      candidates := none :: outline.candidates
      mayBeginKey := true }

/-- Takes the end of a flow collection. -/
def endFlow (token : Token) : Scanner Unit := do
  mark 1 token false
  modify fun outline =>
    if outline.isInFlow then { outline with candidates := outline.candidates.drop 1 } else outline

/-- Takes a dash in front of an element. -/
def dash : Scanner Unit := do
  let outline ← get
  if outline.isInFlow || !outline.mayBeginKey then failure
  set (outline.openBlock (← place).column none .blockList)
  mark 1 .dash true

/-- Takes a question mark in front of a key. -/
def key : Scanner Unit := do
  let outline ← get
  if !outline.isInFlow && !outline.mayBeginKey then failure
  set (outline.openBlock (← place).column none .blockTable)
  mark 1 .key (!outline.isInFlow)

/-- Takes a colon in front of a value. The candidate in front of it, if there is one, is a key. -/
def value : Scanner Unit := do
  let outline ← get
  match outline.candidates with
  | some candidate :: outer =>
    let tokens := outline.tokens.insertIdxIfInBounds candidate.token .key
    let outline := { outline with tokens, candidates := none :: outer, mayBeginKey := false }
    set (outline.openBlock candidate.place.column (some candidate.token) .blockTable)
  | _ =>
    if !outline.isInFlow && !outline.mayBeginKey then failure
    set ((outline.openBlock (← place).column none .blockTable).allowKey (!outline.isInFlow))
  skip 1
  modify (·.push .value)

/-- Takes a plain scalar. -/
def plain : Scanner Unit := do
  saveCandidate
  let outline ← get
  let taken ← Yaml.plain outline.isInFlow (outline.indent.elim 0 (· + 1))
  modify fun outline =>
    (outline.push (.scalar true (String.ofList taken.content))).allowKey taken.endsLine

/-- Takes a scalar between quotes. A colon may stand right behind it in a flow collection. -/
def quoted (quote : Char) : Scanner Unit := do
  candidate false (Token.scalar false <$> Yaml.quoted quote)
  let here ← place
  modify ({ · with quoteEnd := here.index })

/-- Takes the token at a character, where no document begins or ends. -/
def token (c next : Char) : Scanner Unit := do
  let outline ← get
  let here ← place
  let isInFlow := outline.isInFlow
  match c with
  | '[' => beginFlow .flowList
  | '\x7b' => beginFlow .flowTable
  | ']' => endFlow .flowListEnd
  | '\x7d' => endFlow .flowTableEnd
  | ',' => mark 1 .comma true
  | '*' => candidate false (Token.reference <$> anchorName)
  | '&' => candidate false (Token.anchor <$> anchorName)
  | '!' => candidate false Scan.tag
  | '\'' => quoted c
  | '"' => quoted c
  | '-' => if isGap next then dash else plain
  | '?' => if isGap next then key else plain
  | ':' =>
    if isGap next || isInFlow && (isFlowMark next || here.index = outline.quoteEnd) then value
    else plain
  | '|' => if isInFlow then plain else blockScalar false outline.indent
  | '>' => if isInFlow then plain else blockScalar true outline.indent
  | _ => if ['%', '@', '\x60'].contains c then failure else plain
where
  /-- Takes a block of lines. -/
  blockScalar (isFolded : Bool) (indent : Option Nat) : Scanner Unit :=
    candidate true (Token.scalar false <$> block isFolded indent)

/-- Takes tokens up to the end of a document, one with each step. -/
def all : Nat → Scanner Unit
  | 0 => failure
  | fuel + 1 => do
    skipGap (← getThe (List Place)).length
    dropStale
    let here ← place
    modify (·.closeBlocks (some here.column))
    let places ← getThe (List Place)
    if here.char = endMark then
      modify (·.closeBlocks none)
      setCandidate none
      modify (·.push .streamEnd)
    else
      if here.column = 0 && here.char = '%' then boundary Scan.directive
      else if atBoundary '-' places then boundary (do skip 3; return .documentStart)
      else if atBoundary '.' places then boundary (do skip 3; return .documentEnd)
      else token here.char (charAt places 1)
      all fuel

end Scanner

/-- The tokens of a document. -/
def Token.ofDocument? (source : String) : Option (List Token) :=
  let places := Place.ofDocument source
  ((Scanner.all (places.length + 1)).run .empty places).map fun ((_, outline), _) =>
    outline.tokens.toList

end RouteRegistrar.Settings.Yaml
