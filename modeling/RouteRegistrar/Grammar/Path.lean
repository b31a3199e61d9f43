import RouteRegistrar.Grammar.Goal

/-!
# Paths, macro calls and attributes
-/

namespace RouteRegistrar.Grammar

open RouteRegistrar.Parser RouteRegistrar.Token

/-! ## Plain paths -/

/-- Whether a name that may stand in a path comes next. -/
def startsPathName (ts : List Token) : Bool :=
  startsIdent ts || startsSomeWord ["super", "self", "Self", "crate"] ts

/-- A segment without arguments. -/
def plainSegment (name : Tree) : Tree := .node .segment [name, .absent]

/-- A path of one name. -/
def plainPath (name : Tree) : Tree := .node .path [.absent, plainSegment name]

/-- A path without arguments. -/
def modulePath : Parser Tree := do
  let colons ← optionalOp "::"
  let segments ← chain (startsOp "::") "::" do
    require (startsPathName (← ahead))
    return plainSegment (← anyWord)
  return .node .path (colons :: segments)

/-- The segments of a path. -/
def segments (path : Tree) : List Tree := path.children.filter (·.isKind .segment)

/-- Whether no segment of a path has arguments. -/
def isPlain (path : Tree) : Bool :=
  path.isKind .path && (segments path).all fun segment => segment.children.all fun child =>
    child.isAbsent || child.word?.isSome

/-- Whether a macro call goes on behind its path. -/
def startsBang (ts : List Token) : Bool := startsOp "!" ts && !startsOp "!=" ts

/-- The rest of a macro call behind its path. -/
def macroRest (path : Tree) : Parser Tree := do
  let bang ← op "!"
  return .node .macroCall [path, bang, ← rawGroup]

/-- A macro call. -/
def macroCall : Parser Tree := do macroRest (← modulePath)

/-- Whether the arguments of a macro stand in braces. -/
def isBraced : Tree → Bool
  | .tokens [.group .brace _] => true
  | _ => false

/-- Whether the brackets of a macro call are braces. -/
def hasBraces (call : Tree) : Bool := call.children.any isBraced

/-! ## Paths with arguments -/

variable (sub : Goal → Parser Tree)

/-- A segment. In an expression, arguments need two colons in front. -/
def segment (inExpr : Bool) : Parser Tree := do
  let ts ← ahead
  if startsSomeWord ["super", "self", "crate", "try"] ts then return plainSegment (← anyWord)
  let name ← if startsWord "Self" ts then anyWord else ident
  let ts ← ahead
  if (!inExpr && startsOp "<" ts && !startsOp "<=" ts) ||
      (startsOp "::" ts && startsOp "<" (skipTwo ts)) then
    return .node .segment [name, ← sub .arguments]
  return plainSegment name

/-- A path. Colons in front of parentheses are left over. -/
def path (inExpr : Bool) : Parser Tree := do
  let colons ← optionalOp "::"
  let more (ts : List Token) : Bool := startsOp "::" ts && !startsGroup .parenthesis (skipTwo ts)
  return .node .path (colons :: (← chain more "::" (segment sub inExpr)))

/-- A path, or a path that starts at a type in angle brackets. -/
def qualifiedPath (inExpr : Bool) : Parser Tree := do
  if !startsOp "<" (← ahead) then return ← path sub inExpr
  let opening ← op "<"
  let type ← sub (.type true)
  let base ← optional (startsWord "as") do
    return .node .asTrait [← word "as", ← path sub false]
  let closing ← op ">"
  let colons ← op "::"
  let segments ← chain (startsOp "::") "::" (segment sub inExpr)
  return .node .qualifiedPath (opening :: type :: base :: closing :: colons :: segments)

/-! ## Attributes -/

/-- The value behind the equals sign of an attribute: a literal on its own, or an expression without
attributes of its own. -/
def attributeValue : Parser Tree := do
  let alone : Parser Tree := do
    let value ← literal
    require (← ahead).isEmpty
    return .node .exprLit (noAttributes :: value)
  if ← accepts alone then return ← alone
  let ts ← ahead
  require !(startsOp "#" ts && startsGroup .bracket (skip ts))
  sub (.expr true)

/-- What stands in the brackets of an attribute. -/
def attributeContent : Parser Tree := do
  let path ← if startsWord "unsafe" (← ahead) then plainPath <$> anyWord else modulePath
  match ← ahead with
  | .group _ _ :: _ => return .node .metaList [path, ← rawGroup]
  | ts =>
    if startsOp "=" ts then
      return .node .metaNameValue [path, ← op "=", ← attributeValue sub]
    return .node .metaPath [path]

/-- An attribute of what follows. -/
def outerAttribute : Parser Tree := do
  let pound ← op "#"
  return .node .singleAttribute
    [pound, .absent, ← within .bracket do return [← attributeContent sub]]

/-- The attributes of what follows. -/
def outerAttributes : Parser (List Tree) := many (startsOp "#") (outerAttribute sub)

/-- Whether an attribute of what encloses it comes next. -/
def startsInnerAttribute (ts : List Token) : Bool := startsOp "#" ts && startsOp "!" (skip ts)

/-- The attributes of what encloses them. -/
def innerAttributes : Parser Tree := do
  return .node .attributes (← many startsInnerAttribute do
    let pound ← op "#"
    let bang ← op "!"
    let content ← within .bracket do return [← attributeContent sub]
    return .node .singleAttribute [pound, bang, content])

end RouteRegistrar.Grammar
