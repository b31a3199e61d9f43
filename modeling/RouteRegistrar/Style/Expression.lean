import RouteRegistrar.Style.Statement

/-!
# Printed expressions

A chain of accesses is one box, broken in front of every access or nowhere; its innermost receiver
stays where the chain begins. A single argument that is a closure, a block or a list of its own kind
is printed without a place to break around it.

The body of a closure or of a case of a choice gets braces if it does not fit. Parentheses are used
instead where the body would read differently as a statement.
-/

namespace RouteRegistrar.Style

open Document

/-! ## Classes of expressions -/

/-- A name of at most four bytes. -/
def isShortName : Tree → Bool
  | .node .exprPath [.node .attributes [],
      .node .path [colons, .node .segment [.word name, arguments]]] =>
    colons.isAbsent && arguments.isAbsent && name.utf8ByteSize ≤ 4
  | _ => false

/-- Expressions that bring brackets of their own, and closures. -/
def bringsBrackets (tree : Tree) : Bool :=
  !hasAttributes tree &&
    [Kind.exprArray, .exprAsync, .exprBlock, .exprClosure, .exprConst, .exprStruct, .exprTryBlock,
      .exprTuple, .exprUnsafe].any tree.isKind

/-- Expressions whose body takes no braces in a closure. -/
def needsNoBraces (tree : Tree) : Bool :=
  if tree.isKind .exprMatch || tree.isKind .exprCall then !hasAttributes tree
  else bringsBrackets tree

/-- Lists of short literals, which may share lines. -/
def isSimpleElement : Tree → Bool
  | .node .exprLit [_, .literal text] =>
    (text.startsWith "'" || text.startsWith "b'" || (Number.integer? text).isSome)
  | .node .exprLit [_, .word _] => true
  | _ => false

/-- Expressions that are a statement without a semicolon. -/
def isCompleteStatement (tree : Tree) : Bool :=
  Grammar.isBlockLike tree || (tree.isKind .exprMacro && Grammar.endsInBraces tree)

mutual

/-- Whether an expression reads the same as a statement: nothing but an access follows a block or a
macro in braces that it begins with, and it is not the binding of a pattern. -/
def isStatementLike : Tree → Bool
  | .node kind children =>
    match kind with
    | .exprLet => false
    | .exprAwait | .exprField | .exprMethodCall | .exprTry => secondIsStatementLike false children
    | .exprAssign | .exprBinary | .exprCall | .exprCast | .exprIndex | .exprRange =>
      secondIsStatementLike true children
    | _ => true
  | _ => true

/-- The same for the part that an expression begins with, which must not end in a block of its own
if something other than an access follows. -/
def secondIsStatementLike (strict : Bool) : List Tree → Bool
  | _ :: first :: _ => !(strict && isCompleteStatement first) && isStatementLike first
  | _ => true

end

mutual

/-- Whether a space behind a condition that does not fit ends its line. -/
def endsLine : Tree → Bool
  | .node kind children =>
    match kind with
    | .exprAssign | .exprAwait | .exprBinary | .exprCast | .exprField | .exprIndex
    | .exprMethodCall => true
    | .exprCall | .exprTry => secondEndsLine children
    | .exprBreak | .exprLet | .exprParen | .exprRange | .exprRawAddress | .exprReference
    | .exprReturn | .exprUnary | .exprYield => lastEndsLine children
    | _ => false
  | .group _ content => lastEndsLine content
  | _ => false

/-- The same for what an expression is applied to. -/
def secondEndsLine : List Tree → Bool
  | _ :: first :: _ => endsLine first
  | _ => false

/-- The same for what an expression ends in. -/
def lastEndsLine : List Tree → Bool
  | [] => false
  | [last] => endsLine last
  | _ :: rest => lastEndsLine rest

end

variable (sub : Printer)

/-! ## Accesses and calls -/

/-- The arguments of a call. -/
def callArguments (arguments : Tree) : Document :=
  match arguments.items with
  | [] => empty
  | [only] => if bringsBrackets only then sub .plain only
    else consistent step [list sub [only]]
  | items => consistent step [list sub items]

/-- The place in front of an access. -/
def accessBreak (lineStart : Bool) (base : Tree) : Document :=
  onlyIf (!(lineStart && isShortName base)) zeroBreak

/-- An access with all that stands in front of it. -/
def access (lineStart outdentArguments : Bool) : Tree → Document
  | .node .exprAwait [_, base, _, _] =>
    cat [sub (.receiver lineStart) base, accessBreak lineStart base, dotted ".await"]
  | .node .exprField [_, base, _, name] =>
    cat [sub (.receiver lineStart) base, accessBreak lineStart base, dotted ".", leaf name]
  | .node .exprMethodCall [_, base, _, name, generics, .group _ [arguments]] =>
    cat [sub (.receiver lineStart) base, accessBreak lineStart base, dotted ".", leaf name,
      angleArguments sub .inExpr generics,
      consistent (if outdentArguments then -step else 0) ["(", callArguments sub arguments, ")"]]
  | _ => empty

/-- An expression in front of an access. -/
def receiver (lineStart : Bool) : Tree → Document
  | .node .exprCall [_, base, .group _ [arguments]] =>
    cat [sub (.receiver false) base, "(", callArguments sub arguments, ")"]
  | .node .exprIndex [_, base, .group _ [index]] =>
    cat [sub (.receiver lineStart) base, "[", sub .plain index, "]"]
  | .node .exprTry [_, base, _] => cat [sub (.receiver lineStart) base, "?"]
  | tree =>
    if tree.isKind .exprAwait || tree.isKind .exprField || tree.isKind .exprMethodCall then
      access sub lineStart false tree
    else consistent (-step) [sub .plain tree]

/-- The form of what an expression is applied to. -/
def baseForm (lineStart : Bool) : Form := if lineStart then .lineStart else .plain

/-- An access, a call or an expression that another one is applied to. -/
def accessExpr (lineStart : Bool) : Tree → Document
  | .node .exprCall [own, base, .group _ [arguments]] =>
    cat [attributes sub own, sub .plain base, "(", callArguments sub arguments, ")"]
  | .node .exprIndex [own, base, .group _ [index]] =>
    cat [attributes sub own, sub (baseForm lineStart) base, "[", sub .plain index, "]"]
  | .node .exprTry [own, base, _] =>
    cat [attributes sub own, sub (baseForm lineStart) base, "?"]
  | .node .exprMethodCall (own :: base :: rest) =>
    let call := Tree.node .exprMethodCall (own :: base :: rest)
    cat [attributes sub own, consistent step
      [access sub lineStart (lineStart && isShortName base) call]]
  | .node kind (own :: rest) =>
    cat [attributes sub own,
      consistent step [access sub lineStart false (.node kind (own :: rest))]]
  | _ => empty

/-! ## Lists and structs -/

/-- An array given by its elements. -/
def array (elements : List Tree) : Document :=
  if elements.isEmpty then "[]"
  else if elements.all isSimpleElement then
    consistent step [outdented ["[", zeroBreak,
      inconsistent 0 [sequence sub empty (cat [",", space]) elements], comma true], "]"]
  else cat ["[", consistent step [list sub elements], "]"]

/-- The widest struct that stays on one line. -/
def structLimit : Nat := 34

/-- A struct or a field of one. -/
def structExpr : Tree → Document
  | .node .exprStruct [own, name, .group _ [fields, _, base]] =>
    cat [attributes sub own, consistentUpTo structLimit step
      [outdented (inconsistent (-step) [path sub .inExpr name] :: fieldsInBraces sub fields.items
        (if base.isAbsent then [] else [cat ["..", sub .plain base]]))], "\x7d"]
  | .node .fieldValue [own, name, colon, value] =>
    cat [attributes sub own, leaf name, ifPresent colon [": ", inconsistent 0 [sub .plain value]]]
  | _ => empty

/-! ## Control flow -/

/-- A label, if it is present. -/
def label : Tree → Document
  | .node .label [name, _] => cat [leaf name, ": "]
  | _ => empty

/-- A condition in front of a block. -/
def condition (tree : Tree) : Document :=
  consistent 0 [sub .plain tree, if endsLine tree then space else " "]

/-- The body of a loop. -/
def loopBody (block : Tree) : Document := cat [consistent step [blockLines sub block], "\x7d"]

/-- A branch without an alternative. -/
def lonelyBranch (block : Tree) : Document :=
  if (blockStatements block).isEmpty then "\x7b\x7d"
  else cat [outdented ("\x7b" :: hardBreak :: (blockStatements block).map (sub .plain)), "\x7d"]

/-- The last branch of a condition. -/
def lastBranch : Tree → Document
  | .node .exprBlock [_, _, block] => smallBlock sub block
  | _ => empty

/-- The branches of a condition, each condition with its block. -/
def branches : Tree → Document
  | .node .exprIf [_, _, test, block, _, otherwise] =>
    cat ["if ", consistent (-step) [condition sub test], smallBlock sub block,
      ifPresent otherwise [" else ",
        if otherwise.isKind .exprIf then branches otherwise else lastBranch sub otherwise]]
  | _ => empty

/-- A condition with its branches. -/
def conditional : Tree → Document
  | .node .exprIf [own, keyword, test, block, mark, otherwise] =>
    cat [attributes sub own, consistent step
      [if otherwise.isAbsent then
        cat ["if ", consistent (-step) [condition sub test], lonelyBranch sub block]
      else branches sub (.node .exprIf [own, keyword, test, block, mark, otherwise])]]
  | _ => empty

/-- A loop. -/
def loop : Tree → Document
  | .node .exprLoop [own, name, _, block] =>
    cat [attributes sub own, label name, "loop \x7b", loopBody sub block]
  | .node .exprWhile [own, name, _, test, block] =>
    cat [attributes sub own, label name, "while ", condition sub test, "\x7b", neverBreak,
      loopBody sub block]
  | .node .exprForLoop [own, name, _, bound, _, items, block] =>
    cat [attributes sub own, inconsistent 0 [label name, "for ", sub .plain bound, " in ",
      neverBreak, condition sub items, "\x7b", neverBreak, loopBody sub block]]
  | _ => empty

/-! ## Cases -/

/-- What a body stands for that is a block of a single value, or the empty tuple. -/
def armBody : Tree → Tree
  | .node .exprBlock [.node .attributes [], .node .absent [],
      .node .block [.group .brace
        [.node .attributes [], .node .stmtExpr [value, .node .absent []]]]] =>
    armBody value
  | .node .exprTuple [.node .attributes [], .group delimiter [.node .punctuated []]] =>
    .node .exprBlock [Grammar.noAttributes, .absent,
      .node .block [.group delimiter [Grammar.noAttributes]]]
  | body => body

/-- The place in front of a body that gets braces if it does not fit. -/
def openingBrace (braces : Bool) : Document :=
  place { placeOf 0 with before := if braces then "\x7b" else "(" }

/-- The place behind a body that gets braces if it does not fit. Parentheses are followed by
`behind`, and a body that fits by `otherwise`. -/
def closingBrace (braces : Bool) (body : Tree) (behind otherwise : String) : Document :=
  place { placeOf 0 with
    shift := -step
    before := if braces && takesSemicolon body then ";" else ""
    behind := if braces then "\x7d" else ")" ++ behind
    otherwise }

/-- A case. -/
def arm : Tree → Document
  | .node .arm [own, bound, guard, _, value, _] =>
    let test : Document := match guard with
      | .node .guard [_, expr] => cat [" if ", sub .plain expr]
      | _ => empty
    let body : Document := match armBody value with
      | .node .exprBlock [_, name, block] =>
        cat [" ", label name, "\x7b", neverBreak, loopBody sub block]
      | body =>
        let braces := isStatementLike body
        cat [" ", neverBreak, consistent step [openingBrace braces, sub .lineStart body,
          closingBrace braces body "," (if Grammar.isBlockLike body then "" else ",")]]
    cat [attributes sub own, inconsistent 0 [sub .plain bound, test, " =>", body]]
  | _ => empty

/-- A choice. -/
def choice : Tree → Document
  | .node .exprMatch [own, _, value, .group _ (inner :: arms)] =>
    cat [attributes sub own, inconsistent 0 ["match ", condition sub value, "\x7b", neverBreak,
      consistent step [outdented (hardBreakIfMore :: attributes sub inner ::
        arms.flatMap fun tree => [sub .plain tree, hardBreak])], "\x7d"]]
  | _ => empty

/-! ## Closures -/

/-- The parameters of a closure behind the first bar. -/
def closureInputs (items : List Tree) : List Document :=
  if items.isEmpty then [] else [zeroBreak, sequence sub empty (cat [",", space]) items]

/-- The body of a closure without a return type. -/
def closureBody (body : Tree) : Document :=
  if needsNoBraces body then sub .plain body
  else
    let braces := isStatementLike body
    consistent step [openingBrace braces, sub .plain body, closingBrace braces body "" ""]

/-- A closure. -/
def closure : Tree → Document
  | .node .exprClosure [own, lifetimes, constness, staticness, asyncness, moveness, _, inputs, _,
      output, body] =>
    let front := [sub .plain lifetimes, modifier constness, modifier staticness, modifier asyncness,
      modifier moveness]
    let parameters := cat (word "|" :: closureInputs sub inputs.items)
    let rest := if output.isAbsent then
        [consistent step [outdented [parameters, "|", space]], neverBreak, closureBody sub body]
      else
        let ending := onlyIf (!inputs.items.isEmpty) (comma true)
        [consistent step [outdented [parameters, ending], "|"], returnType sub output, " ",
          neverBreak, sub .plain body]
    cat [attributes sub own, inconsistent 0 (front ++ rest)]
  | _ => empty

/-! ## Expressions -/

/-- A keyword with a value that may be missing. -/
def keywordValue (own : Tree) (keyword : String) (value : Tree) : Document :=
  cat [attributes sub own, keyword, ifPresent value [" ", sub .plain value]]

/-- A block behind a keyword. -/
def keywordBlock (own : Tree) (front : Document) (block : Tree) : Document :=
  cat [attributes sub own, front, consistent step [smallBlock sub block]]

/-- An operation between an expression and what stands to the right. -/
def operation (own left : Tree) (operator : Document) (right : Tree) : Document :=
  cat [attributes sub own, inconsistent step [inconsistent (-step) [sub .plain left], space,
    operator, " ", sub .plain right]]

/-- An expression of several parts. -/
def compound : Tree → Document
  | .node .exprUnary [own, operator, value] =>
    cat [attributes sub own, leaf operator, sub .plain value]
  | .node .exprReference [own, _, mutability, value] =>
    cat [attributes sub own, "&", modifier mutability, sub .plain value]
  | .node .exprRawAddress [own, _, _, mutability, value] =>
    cat [attributes sub own, "&raw ", modifier mutability, sub .plain value]
  | .node .exprBinary [own, left, operator, right] => operation sub own left (leaf operator) right
  | .node .exprCast [own, value, _, type] => operation sub own value "as" type
  | .node .exprAssign [own, left, _, right] =>
    cat [attributes sub own,
      inconsistent 0 [sub .plain left, " = ", neverBreak, sub .plain right]]
  | .node .exprRange [own, start, limits, stop] =>
    cat [attributes sub own, rangeOf sub start limits stop]
  | .node .exprLet [own, _, bound, _, value] =>
    cat [attributes sub own, inconsistent 0 ["let ", inconsistent 0 [sub .plain bound], " = ",
      neverBreak, inconsistent 0 [sub .plain value]]]
  | .node .exprBlock [own, name, block] => keywordBlock sub own (label name) block
  | .node .exprUnsafe [own, _, block] => keywordBlock sub own "unsafe " block
  | .node .exprConst [own, _, block] => keywordBlock sub own "const " block
  | .node .exprTryBlock [own, _, block] => keywordBlock sub own "try " block
  | .node .exprAsync [own, _, moveness, block] =>
    keywordBlock sub own (cat ["async ", modifier moveness]) block
  | .node .exprBreak [own, _, name, value] =>
    cat [attributes sub own, "break", ifPresent name [" ", leaf name],
      ifPresent value [" ", sub .plain value]]
  | .node .exprContinue [own, _, name] => keywordValue sub own "continue" name
  | .node .exprReturn [own, _, value] => keywordValue sub own "return" value
  | .node .exprYield [own, _, value] => keywordValue sub own "yield" value
  | _ => empty

/-- An expression, possibly at the beginning of a line. -/
def expr (lineStart : Bool) (tree : Tree) : Document :=
  match tree with
  | .node .exprLit (own :: parts) => cat (attributes sub own :: parts.map leaf)
  | .node .exprPath [own, name] => cat [attributes sub own, path sub .inExpr name]
  | .node .exprMacro [own, call] => cat [attributes sub own, macroCall sub call]
  | .node .exprInfer [own, _] => cat [attributes sub own, "_"]
  | .node .exprParen [own, .group _ [inner]] =>
    cat [attributes sub own, "(", sub .plain inner, ")"]
  | .node .exprTuple [own, .group _ [elements]] => cat [attributes sub own, tuple sub elements]
  | .node .exprArray [own, .group _ [elements]] =>
    cat [attributes sub own, array sub elements.items]
  | .node .exprRepeat [own, .group _ [value, _, length]] =>
    cat [attributes sub own, "[", sub .plain value, "; ", sub .plain length, "]"]
  | .node kind _ =>
    match kind with
    | .exprStruct | .fieldValue => structExpr sub tree
    | .exprCall | .exprMethodCall | .exprField | .exprAwait | .exprIndex | .exprTry =>
      accessExpr sub lineStart tree
    | .exprIf => conditional sub tree
    | .exprWhile | .exprForLoop | .exprLoop => loop sub tree
    | .exprMatch => choice sub tree
    | .arm => arm sub tree
    | .exprClosure => closure sub tree
    | _ => compound sub tree
  | _ => leaf tree

end RouteRegistrar.Style
