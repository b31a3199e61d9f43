import RouteRegistrar.Grammar.Type
import RouteRegistrar.Token.Number

/-!
# Patterns
-/

namespace RouteRegistrar.Grammar

open RouteRegistrar.Parser RouteRegistrar.Token

/-! ## Members and ranges -/

/-- A member of a tuple, written as a plain number. -/
def position : Parser Tree :=
  token fun
    | .literal text => (Number.position? text).map fun value => .literal (toString value)
    | _ => none

/-- A named member or a member of a tuple. -/
def member : Parser Tree := do if startsIdent (← ahead) then ident else position

/-- The dots of a range in a pattern. Three dots are read as an inclusive range. -/
def patternLimits : Parser Tree := do
  let ts ← ahead
  if startsOp "..=" ts then op "..="
  else if startsOp "..." ts then
    let _ ← op "..."
    return .op "..="
  else op ".."

/-- Whether a range includes its end. -/
def isInclusive : Tree → Bool
  | .op text => text = "..="
  | _ => false

/-! ## Patterns -/

variable (sub : Goal → Parser Tree)

/-- A block whose value is a constant. -/
def constBlock (attributes : List Tree) : Parser Tree := do
  return .node .exprConst [.node .attributes attributes, ← word "const", ← sub (.block true)]

/-- What ends a range that has no upper bound. -/
def endsPatternRange (ts : List Token) : Bool :=
  ts.isEmpty || startsSomeOp ["|", "=", ",", ";"] ts || startsWord "if" ts ||
    (startsOp ":" ts && !startsOp "::" ts)

/-- A bound of a range, or absent. -/
def rangeBound : Parser Tree := do
  let ts ← ahead
  if endsPatternRange ts then return .absent
  if startsLiteral ts then return .node .exprLit (noAttributes :: (← literal))
  if startsPathName ts || startsSomeOp ["::", "<"] ts then
    return .node .exprPath [noAttributes, ← qualifiedPath sub true]
  constBlock sub []

/-- A range behind its lower bound. -/
def patternRangeRest (start : Tree) : Parser Tree := do
  let limits ← patternLimits
  let stop ← rangeBound sub
  require !(isInclusive limits && stop.isAbsent)
  return .node .patRange [start, limits, stop]

/-- A literal, a constant block, or a range that begins with one. -/
def patternLiteral : Parser Tree := do
  let start ← rangeBound sub
  require !start.isAbsent
  if startsOp ".." (← ahead) then patternRangeRest sub start else return start

/-- A range without lower bound, or the rest of a sequence. -/
def patternHalfOpen : Parser Tree := do
  let ts ← ahead
  let limits ← if startsOp "..=" ts then op "..=" else op ".."
  let stop ← rangeBound sub
  if !stop.isAbsent then return .node .patRange [.absent, limits, stop]
  require !(isInclusive limits)
  return .node .patRest [limits]

/-- A name that is bound. -/
def patternIdent : Parser Tree := do
  let reference ← optionalWord "ref"
  let mutability ← optionalWord "mut"
  let name ← if startsWord "self" (← ahead) then anyWord else ident
  let mark ← optionalOp "@"
  return .node .patIdent [reference, mutability, name, mark, ← follow mark (sub .pattern)]

/-- Patterns with commas between them. -/
def patternList : Parser (List Tree) := do return [← separated "," (sub .patterns)]

/-- A field of a struct pattern. -/
def patternField : Parser Tree := do
  let attributes := Tree.node .attributes (← outerAttributes sub)
  let start ← ahead
  if startsOp ".." start then return .node .patFieldRest [attributes, ← op ".."]
  let boxed ← optionalWord "box"
  let reference ← optionalWord "ref"
  let mutability ← optionalWord "mut"
  let isBare : Bool := boxed.isAbsent && reference.isAbsent && mutability.isAbsent
  let name ← if isBare then member else ident
  if (isBare && startsOp ":" (← ahead)) || name.word?.isNone then
    let colon ← op ":"
    return .node .patField [attributes, name, colon, ← sub .patterns]
  let pattern ← if boxed.isAbsent then
      pure (Tree.node .patIdent [reference, mutability, name, .absent, .absent])
    else since start
  return .node .patField [attributes, .absent, .absent, pattern]

/-- The fields of a struct pattern. Two dots end them. -/
def patternFields : Parser (List Tree) := do
  let found ← iterate (fun done => do
    if (← ahead).isEmpty then return (done, false)
    let item ← patternField sub
    if item.isKind .patFieldRest || (← ahead).isEmpty then return (item :: done, false)
    else return ((← op ",") :: item :: done, true)) []
  match found with
  | rest :: before =>
    if rest.isKind .patFieldRest then return [.node .punctuated before.reverse, rest]
    else return [.node .punctuated found.reverse, .absent]
  | [] => return [.node .punctuated [], .absent]

/-- A pattern that begins with a path. -/
def patternOfPath : Parser Tree := do
  let found ← qualifiedPath sub true
  let ts ← ahead
  if startsBang ts && isPlain found then return .node .patMacro [← macroRest found]
  if startsGroup .brace ts then
    return .node .patStruct [found, ← within .brace (patternFields sub)]
  if startsGroup .parenthesis ts then
    return .node .patTupleStruct [found, ← within .parenthesis (patternList sub)]
  if startsOp ".." ts then
    return ← patternRangeRest sub (.node .exprPath [noAttributes, found])
  return .node .patPath [found]

/-- A tuple, or a pattern in parentheses. -/
def patternParenthesized : Parser Tree := do
  let content ← within .parenthesis (patternList sub)
  match content with
  | .group _ [.node .punctuated [only]] =>
    if only.isKind .patRest then return .node .patTuple [content]
    else return .node .patParen [.group .parenthesis [only]]
  | _ => return .node .patTuple [content]

/-- A sequence. A range without one of its bounds needs parentheses in it. -/
def patternSlice : Parser Tree := do
  let isOpenRange : Tree → Bool
    | .node .patRange [start, _, stop] => start.isAbsent || stop.isAbsent
    | _ => false
  let content ← within .bracket do
    return [← separated "," do
      let item ← sub .patterns
      require !(isOpenRange item)
      return item]
  return .node .patSlice [content]

/-- Whether a pattern that begins with a path comes next. -/
def startsPatternPath (ts : List Token) : Bool :=
  let second := skip ts
  (startsIdent ts && (startsSomeOp ["::", "!", ".."] second || startsGroup .brace second ||
      startsGroup .parenthesis second)) ||
    (startsWord "self" ts && startsOp "::" second) || startsSomeOp ["::", "<"] ts ||
    startsSomeWord ["Self", "super", "crate"] ts

/-- A pattern without alternatives. -/
def pattern : Parser Tree := do
  let ts ← ahead
  if startsPatternPath ts then patternOfPath sub
  else if startsWord "_" ts then return .node .patWild [← word "_"]
  else if startsWord "box" ts then verbatim do
    let _ ← word "box"
    let _ ← sub .pattern
  else if startsOp "-" ts || startsLiteral ts || startsWord "const" ts then patternLiteral sub
  else if startsSomeWord ["ref", "mut", "self"] ts || startsIdent ts then patternIdent sub
  else if startsOp "&" ts then
    let ampersand ← op "&"
    let mutability ← optionalWord "mut"
    return .node .patReference [ampersand, mutability, ← sub .pattern]
  else if startsGroup .parenthesis ts then patternParenthesized sub
  else if startsGroup .bracket ts then patternSlice sub
  else if startsOp ".." ts && !startsOp "..." ts then patternHalfOpen sub
  else failure

/-- Alternative patterns. A single one keeps its own form unless a bar stands in front. -/
def patterns : Parser Tree := do
  let isBar (ts : List Token) : Bool :=
    startsOp "|" ts && !startsSomeOp ["||", "|="] ts
  let leading ← optionalOp "|"
  let cases ← chain isBar "|" (sub .pattern)
  match cases with
  | [only] =>
    if leading.isAbsent then return only
    else return .node .patOr [leading, .node .punctuated [only]]
  | _ => return .node .patOr [leading, .node .punctuated cases]

end RouteRegistrar.Grammar
