import RouteRegistrar.Grammar.Pattern

/-!
# Operands

The innermost parts of expressions: literals, paths, calls of macros, groups, blocks, control flow
and closures, and the accesses and calls that follow them.
-/

namespace RouteRegistrar.Grammar

open RouteRegistrar.Parser RouteRegistrar.Token

/-! ## Classes of expressions -/

/-- Expressions that end in their own block, so that they may stand as statements. -/
def isBlockLike (tree : Tree) : Bool :=
  match tree.kind? with
  | some kind => [Kind.exprIf, .exprMatch, .exprBlock, .exprUnsafe, .exprWhile, .exprLoop,
      .exprForLoop, .exprTryBlock, .exprConst].contains kind
  | none => false

/-- Whether a tree ends in braces. -/
def endsInBraces (tree : Tree) : Bool :=
  match tree.toTokens.getLast? with
  | some (.group .brace _) => true
  | _ => false

/-- Whether an expression may come next. -/
def startsExpr (ts : List Token) : Bool :=
  (startsAnyWord ts && !startsWord "as" ts) || startsGroup .parenthesis ts ||
    startsGroup .bracket ts || startsGroup .brace ts || startsLiteral ts || startsLifetime ts ||
    (startsOp "!" ts && !startsOp "!=" ts) ||
    (startsOp "-" ts && !startsSomeOp ["-=", "->"] ts) ||
    (startsOp "*" ts && !startsOp "*=" ts) ||
    (startsOp "|" ts && !startsOp "|=" ts) ||
    (startsOp "&" ts && !startsOp "&=" ts) ||
    (startsOp "<" ts && !startsSomeOp ["<=", "<<="] ts) ||
    startsSomeOp ["..", "::", "#"] ts

variable (sub : Goal → Parser Tree)

/-- Expressions with commas between them. -/
def exprList : Parser (List Tree) := do return [← separated "," (sub (.expr true))]

/-! ## Accesses and calls -/

/-- The members that the positions of a fractional literal name. -/
def positions (base : Tree) : List Nat → Tree
  | [] => base
  | p :: rest =>
    positions (.node .exprField [noAttributes, base, .op ".", .literal (toString p)]) rest

/-- An access behind its point: a field, a call of a method or an awaited value. -/
def accessOf (base : Tree) : Parser Tree := do
  if startsWord "await" (← ahead) then
    return .node .exprAwait [noAttributes, base, .op ".", ← anyWord]
  let name ← member
  if name.word?.isNone then return .node .exprField [noAttributes, base, .op ".", name]
  let arguments ← optional (startsOp "::") (angleArguments sub)
  if !arguments.isAbsent || startsGroup .parenthesis (← ahead) then
    return .node .exprMethodCall
      [noAttributes, base, .op ".", name, arguments, ← within .parenthesis (exprList sub)]
  return .node .exprField [noAttributes, base, .op ".", name]

/-- Whether a number with a point comes next, which stands for two members. -/
def startsFraction : List Token → Bool
  | .literal text :: _ => Number.isFractional text
  | _ => false

/-- An access at a point. -/
def access (base : Tree) : Parser Tree := do
  let _ ← op "."
  if startsFraction (← ahead) then
    let (found, isOpen) ← token fun
      | .literal text => Number.positions? text
      | _ => none
    if isOpen then accessOf sub (positions base found) else return positions base found
  else accessOf sub base

/-- Accesses and calls behind an expression. A range takes calls and indices only. -/
def accesses (base : Tree) : Parser Tree :=
  iterate (fun found => do
    let ts ← ahead
    let isRange := found.isKind .exprRange
    if startsGroup .parenthesis ts then
      return (.node .exprCall [noAttributes, found, ← within .parenthesis (exprList sub)], true)
    if startsOp "." ts && !startsOp ".." ts && !isRange then return (← access sub found, true)
    if startsGroup .bracket ts then
      let index ← within .bracket do return [← sub (.expr true)]
      return (.node .exprIndex [noAttributes, found, index], true)
    if startsOp "?" ts && !isRange then
      return (.node .exprTry [noAttributes, found, ← op "?"], true)
    return (found, false)) base

/-! ## Groups -/

/-- A tuple, or an expression in parentheses. -/
def exprParenthesized : Parser Tree := do
  let content ← within .parenthesis (exprList sub)
  match content with
  | .group _ [.node .punctuated [only]] =>
    return .node .exprParen [noAttributes, .group .parenthesis [only]]
  | _ => return .node .exprTuple [noAttributes, content]

/-- An array given by its elements or by a repeated one. -/
def exprBracketed : Parser Tree := do
  let content ← within .bracket do
    if (← ahead).isEmpty then return [.node .punctuated []]
    let first ← sub (.expr true)
    let ts ← ahead
    if startsOp ";" ts then return [first, ← op ";", ← sub (.expr true)]
    if ts.isEmpty then return [.node .punctuated [first]]
    let comma ← op ","
    let rest ← separated "," (sub (.expr true))
    return [.node .punctuated (first :: comma :: rest.children)]
  return .node (if content.children.length = 1 then .exprArray else .exprRepeat)
    [noAttributes, content]

/-- A field of a struct. The value of a named field may be left out. -/
def fieldValue : Parser Tree := do
  let attributes := Tree.node .attributes (← outerAttributes sub)
  let name ← member
  if name.word?.isSome && !startsOp ":" (← ahead) then
    return .node .fieldValue [attributes, name, .absent, .absent]
  let colon ← op ":"
  return .node .fieldValue [attributes, name, colon, ← sub (.expr true)]

/-- The fields of a struct. Two dots and an optional base end them. -/
def structFields : Parser (List Tree) := do
  let fields ← listUntil (fun ts => ts.isEmpty || startsOp ".." ts) "," (fieldValue sub)
  require (fields.children.isEmpty || fields.hasTrailingSeparator || (← ahead).isEmpty)
  let dots ← optionalOp ".."
  let base ← if dots.isAbsent || (← ahead).isEmpty then pure Tree.absent else sub (.expr true)
  return [fields, dots, base]

/-- A path, a struct or a call of a macro. -/
def exprOfPath (structs : Bool) : Parser Tree := do
  let found ← qualifiedPath sub true
  let ts ← ahead
  if startsBang ts && isPlain found then
    return .node .exprMacro [noAttributes, ← macroRest found]
  if structs && startsGroup .brace ts then
    return .node .exprStruct [noAttributes, found, ← within .brace (structFields sub)]
  return .node .exprPath [noAttributes, found]

/-! ## Closures -/

/-- A pattern that carries attributes. Plain tokens lose them. -/
def attributedPattern (attributes : List Tree) (found : Tree) : Tree :=
  if attributes.isEmpty || found.isKind .verbatim then found
  else .node .patAttributed [.node .attributes attributes, found]

/-- A parameter of a closure. -/
def closureParameter : Parser Tree := do
  let attributes ← outerAttributes sub
  let found ← sub .pattern
  if startsOp ":" (← ahead) then
    let colon ← op ":"
    return .node .patType [.node .attributes attributes, found, colon, ← sub (.type true)]
  return attributedPattern attributes found

/-- A closure. Behind a return type its body has to be a block. -/
def exprClosure (structs : Bool) : Parser Tree := do
  let lifetimes ← boundLifetimes sub
  let constness ← optionalWord "const"
  let staticness ← optionalWord "static"
  let asyncness ← optionalWord "async"
  let moveness ← optionalWord "move"
  let opening ← op "|"
  let inputs ← listUntil (startsOp "|") "," (closureParameter sub)
  let closing ← op "|"
  let output ← returnType sub true
  let body ← if output.isAbsent then sub (.expr structs)
    else do pure (Tree.node .exprBlock [noAttributes, .absent, ← sub (.block false)])
  return .node .exprClosure [noAttributes, lifetimes, constness, staticness, asyncness, moveness,
    opening, inputs, closing, output, body]

/-! ## Control flow -/

/-- The name of a loop or a block. -/
def label : Parser Tree := do return .node .label [← lifetime, ← op ":"]

/-- The branch behind `else`: another condition or a block. -/
def elseBranch : Parser Tree := do
  if startsWord "if" (← ahead) then sub .conditional
  else return .node .exprBlock [noAttributes, .absent, ← sub (.block false)]

/-- A condition with its branches. -/
def exprIf : Parser Tree := do
  let keyword ← word "if"
  let condition ← sub (.expr false)
  let block ← sub (.block false)
  let otherwise ← optionalWord "else"
  return .node .exprIf [noAttributes, keyword, condition, block, otherwise,
    ← follow otherwise (elseBranch sub)]

/-- A loop with a condition. -/
def exprWhile (name : Tree) : Parser Tree := do
  let keyword ← word "while"
  let condition ← sub (.expr false)
  return .node .exprWhile [noAttributes, name, keyword, condition, ← sub (.block true)]

/-- A loop over the items of a sequence. -/
def exprForLoop (name : Tree) : Parser Tree := do
  let keyword ← word "for"
  let pattern ← sub .patterns
  let inside ← word "in"
  let sequence ← sub (.expr false)
  return .node .exprForLoop
    [noAttributes, name, keyword, pattern, inside, sequence, ← sub (.block true)]

/-- A loop without a condition. -/
def exprLoop (name : Tree) : Parser Tree := do
  return .node .exprLoop [noAttributes, name, ← word "loop", ← sub (.block true)]

/-- A case. Unless its value ends in a block, a comma has to follow or nothing. -/
def arm : Parser Tree := do
  let attributes := Tree.node .attributes (← outerAttributes sub)
  let pattern ← sub .patterns
  let guard ← optional (startsWord "if") do
    return .node .guard [← word "if", ← sub (.expr true)]
  let arrow ← op "=>"
  let body ← sub .earlyExpr
  let comma ← optionalOp ","
  require (isBlockLike body || !comma.isAbsent || (← ahead).isEmpty)
  return .node .arm [attributes, pattern, guard, arrow, body, comma]

/-- A choice between cases. -/
def exprMatch : Parser Tree := do
  let keyword ← word "match"
  let value ← sub (.expr false)
  return .node .exprMatch [noAttributes, keyword, value, ← within .brace do
    let attributes ← innerAttributes sub
    return attributes :: (← all (arm sub))]

/-- A block behind a keyword. -/
def keywordBlock (kind : Kind) (keyword : String) (attributes : Bool) : Parser Tree := do
  return .node kind [noAttributes, ← word keyword, ← sub (.block attributes)]

/-- A loop or a block behind its name. -/
def exprLabelled : Parser Tree := do
  let name ← label
  let ts ← ahead
  if startsWord "while" ts then exprWhile sub name
  else if startsWord "for" ts then exprForLoop sub name
  else if startsWord "loop" ts then exprLoop sub name
  else return .node .exprBlock [noAttributes, name, ← sub (.block true)]

/-- Leaves a loop or a block. A value that begins with a name needs parentheses. -/
def exprBreak (structs : Bool) : Parser Tree := do
  let keyword ← word "break"
  let name ← optionalLifetime
  let ts ← ahead
  require !(!name.isAbsent && startsOp ":" ts)
  let hasValue : Bool := startsExpr ts && (structs || !startsGroup .brace ts)
  return .node .exprBreak
    [noAttributes, keyword, name, ← if hasValue then sub (.expr true) else pure .absent]

/-- A keyword with a value that may be missing. -/
def exprWithValue (kind : Kind) (keyword : String) : Parser Tree := do
  return .node kind [noAttributes, ← word keyword, ← optional startsExpr (sub (.expr true))]

/-- A condition that holds if a pattern fits. -/
def exprLet (structs : Bool) : Parser Tree := do
  let keyword ← word "let"
  let pattern ← sub .patterns
  let equals ← op "="
  let value ← sub (.unary structs)
  return .node .exprLet
    [noAttributes, keyword, pattern, equals, ← sub (.continued value structs .compare)]

/-- What ends a range that has no upper bound. -/
def endsRange (structs : Bool) (ts : List Token) : Bool :=
  ts.isEmpty || startsSomeOp [",", ";", "?", "=>", "=", "+", "/", "%", "^", ">", "<=", "!=", "-=",
      "*=", "&=", "|=", "<<="] ts ||
    (startsOp "." ts && !startsOp ".." ts) || (!structs && startsGroup .brace ts) ||
    startsWord "as" ts

/-- The dots of a range. -/
def rangeLimits : Parser Tree := do
  let ts ← ahead
  require !(startsOp "..." ts)
  if startsOp "..=" ts then op "..=" else op ".."

end RouteRegistrar.Grammar
