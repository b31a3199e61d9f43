import RouteRegistrar.Grammar.Expression
import RouteRegistrar.Style.Pattern

/-!
# Printed blocks and statements

Statements end their lines. A block that holds a single expression may stay on one line; other
blocks are broken by the statements in them.
-/

namespace RouteRegistrar.Style

open Document

/-! ## Blocks -/

/-- The attributes in a block, which belong to what encloses them. -/
def blockAttributes : Tree → Tree
  | .node .block [.group _ (own :: _)] => own
  | _ => .absent

/-- The statements of a block. -/
def blockStatements : Tree → List Tree
  | .node .block [.group _ (_ :: statements)] => statements
  | _ => []

/-- The value of a block that holds nothing else. -/
def onlyValue? (block : Tree) : Option Tree :=
  match blockStatements block with
  | [.node .stmtExpr [value, semicolon]] => if semicolon.isAbsent then some value else none
  | _ => none

variable (sub : Printer)

/-- Attributes and other parts behind an opening brace, each part on lines of its own. -/
def linesInBraces (own : Tree) (parts : List Tree) : Document :=
  outdented (hardBreakIfMore :: attributes sub own :: parts.map (sub .plain))

/-- The statements of a block behind its opening brace. -/
def blockLines (block : Tree) : Document :=
  linesInBraces sub (blockAttributes block) (blockStatements block)

/-- A block that may stay on one line. -/
def smallBlock (block : Tree) : Document :=
  let own := blockAttributes block
  let statements := blockStatements block
  if own.children.isEmpty && statements.isEmpty then "\x7b\x7d"
  else
    let content := match onlyValue? block with
      | some value => cat [inconsistent 0 [sub .lineStart value], space]
      | none => cat (statements.map (sub .plain))
    cat [outdented ["\x7b", space, attributes sub own, content], "\x7d"]

/-! ## Semicolons -/

/-- Whether an expression at the end of a block is given a semicolon. -/
def takesSemicolon : Tree → Bool
  | .node .exprBinary [_, _, .op text, _] => Grammar.operatorPrecedence text = .assign
  | tree => [Kind.exprAssign, .exprBreak, .exprContinue, .exprReturn, .exprYield].any tree.isKind

mutual

/-- Whether a semicolon behind an expression is left out: it is a loop, or a condition whose last
branch is none or a loop. -/
def leavesSemicolon : Tree → Bool
  | .node kind children =>
    match kind with
    | .exprForLoop | .exprWhile | .absent => true
    | .exprIf => lastLeavesSemicolon children
    | _ => false
  | _ => false

/-- The same for the last branch of a condition. -/
def lastLeavesSemicolon : List Tree → Bool
  | [] => false
  | [branch] => leavesSemicolon branch
  | _ :: rest => lastLeavesSemicolon rest

end

/-! ## Statements -/

/-- A binding behind its pattern. -/
def initializer (tree : Tree) : Document × Document :=
  match tree with
  | .node .initializer [_, value, otherwise, block] =>
    let bound := cat [" = ", neverBreak, sub .plain value]
    if otherwise.isAbsent then (bound, empty)
    else (cat [bound, space, "else "],
      cat [neverBreak, consistent step [smallBlock sub block]])
  | _ => (empty, empty)

/-- A statement. -/
def statement : Tree → Document
  | .node .stmtLet [own, _, bound, value, _] =>
    let (first, second) := initializer sub value
    cat [attributes sub own, inconsistent 0 ["let ", sub .plain bound, first], second, ";",
      hardBreak]
  | .node .stmtExpr [value, semicolon] =>
    let ending : Bool := if semicolon.isAbsent then takesSemicolon value else !leavesSemicolon value
    cat [inconsistent 0 [sub .lineStart value, onlyIf ending ";"], hardBreak]
  | .node .stmtMacro [own, call, semicolon] =>
    cat [attributes sub own, macroCall sub call, leaf semicolon, hardBreak]
  | _ => empty

end RouteRegistrar.Style
