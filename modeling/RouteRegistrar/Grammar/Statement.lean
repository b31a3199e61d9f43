import RouteRegistrar.Grammar.Expression
import RouteRegistrar.Grammar.Member

/-!
# Statements
-/

namespace RouteRegistrar.Grammar

open RouteRegistrar.Parser RouteRegistrar.Token

/-! ## Attributes of statements -/

mutual

/-- Gives attributes to the leftmost operand of a statement. -/
def addToLeftmost (attributes : List Tree) : Tree → Tree
  | .node kind children =>
    if kind = .exprAssign || kind = .exprBinary || kind = .exprCast then
      .node kind (addToSecond attributes children)
    else addAttributes attributes (.node kind children)
  | leaf => leaf

/-- Gives attributes to the second child. -/
def addToSecond (attributes : List Tree) : List Tree → List Tree
  | own :: left :: rest => own :: addToLeftmost attributes left :: rest
  | short => short

end

/-! ## Statements -/

variable (sub : Goal → Parser Tree)

/-- Whether an item, and no expression, comes next. -/
def startsItem (ts : List Token) : Bool :=
  let second := skip ts
  let third := skipTwo ts
  startsSomeWord ["pub", "extern", "use", "fn", "mod", "type", "struct", "enum", "trait", "impl",
      "macro"] ts ||
    (startsWord "crate" ts && !startsOp "::" second) ||
    (startsWord "static" ts && (startsWord "mut" second || (startsIdent second &&
      !(startsWord "async" second && (startsWord "move" third || startsOp "|" third))))) ||
    (startsWord "const" ts && !(startsGroup .brace second || startsWord "static" second ||
      (startsWord "async" second && !startsSomeWord ["unsafe", "extern", "fn"] third) ||
      startsWord "move" second || startsOp "|" second)) ||
    (startsWord "unsafe" ts && !startsGroup .brace second) ||
    (startsWord "async" ts && startsSomeWord ["unsafe", "extern", "fn"] second) ||
    (startsWord "union" ts && startsIdent second) ||
    (startsWord "auto" ts && startsWord "trait" second) ||
    (startsWord "default" ts && startsSomeWord ["unsafe", "impl"] second)

/-- A binding. A block behind `else` may follow a value that does not end in braces. -/
def stmtLet (attributes : List Tree) : Parser Tree := do
  let keyword ← word "let"
  let bound ← sub .pattern
  let colon ← optionalOp ":"
  let pattern ← if colon.isAbsent then pure bound
    else do pure (Tree.node .patType [noAttributes, bound, colon, ← sub (.type true)])
  let value ← optional (startsOp "=") do
    let equals ← op "="
    let value ← sub (.expr true)
    let otherwise ← if endsInBraces value then pure Tree.absent else optionalWord "else"
    return .node .initializer [equals, value, otherwise, ← follow otherwise (sub (.block false))]
  return .node .stmtLet [.node .attributes attributes, keyword, pattern, value, ← op ";"]

/-- An expression with its semicolon. -/
def stmtExpr (attributes : List Tree) : Parser Tree := do
  let found := addToLeftmost attributes (← sub .earlyExpr)
  let semicolon ← optionalOp ";"
  match found with
  | .node .exprMacro [own, call] =>
    if !semicolon.isAbsent || hasBraces call then
      return .node .stmtMacro [own, call, semicolon]
    else return .node .stmtExpr [found, semicolon]
  | _ => return .node .stmtExpr [found, semicolon]

/-- How a statement that begins with a path and a bang is read. -/
inductive MacroUse where
  /-- The macro defines a name. -/
  | item
  /-- The call is a statement of its own. -/
  | statement
  /-- The call is part of an expression. -/
  | expression
  deriving DecidableEq

/-- Decides how a macro call at the beginning of a statement is read. -/
def macroUse (ts : List Token) : MacroUse :=
  match modulePath ts with
  | some (_, rest) =>
    let second := skip rest
    let third := skipTwo rest
    if !startsOp "!" rest then .expression
    else if startsIdent second || startsWord "try" second then .item
    else if startsGroup .brace second &&
        !((startsOp "." third && !startsOp ".." third) || startsOp "?" third) then .statement
    else .expression
  | none => .expression

/-- A statement. -/
def statement : Parser Tree := do
  let start ← ahead
  let attributes ← outerAttributes sub
  let ts ← ahead
  match macroUse ts with
  | .item => itemRest sub start attributes
  | .statement =>
    let call ← macroCall
    return .node .stmtMacro [.node .attributes attributes, call, ← optionalOp ";"]
  | .expression =>
    if startsWord "let" ts then stmtLet sub attributes
    else if startsItem ts then itemRest sub start attributes
    else stmtExpr sub attributes

/-- Whether a statement has to be the last one, since it is an expression without semicolon that
does not end in its own block. -/
def isFinal : Tree → Bool
  | .node .stmtExpr [.node .exprMacro [_, call], semicolon] => semicolon.isAbsent && !hasBraces call
  | .node .stmtExpr [found, semicolon] => semicolon.isAbsent && !isBlockLike found
  | _ => false

/-- Statements up to the end. -/
def statements : Parser (List Tree) :=
  all do
    if startsOp ";" (← ahead) then return .node .stmtEmpty [← op ";"]
    let found ← statement sub
    require (!isFinal found || (← ahead).isEmpty)
    return found

/-- Statements in braces. -/
def block (attributes : Bool) : Parser Tree := do
  return .node .block [← within .brace do
    let own ← if attributes then innerAttributes sub else pure noAttributes
    return own :: (← statements sub)]

end RouteRegistrar.Grammar
