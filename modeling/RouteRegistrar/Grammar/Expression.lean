import RouteRegistrar.Grammar.Operand

/-!
# Expressions

Operands are combined by precedence. Comparisons do not chain, assignments group to the right, and a
range ends an expression.
-/

namespace RouteRegistrar.Grammar

open RouteRegistrar.Parser RouteRegistrar.Token

/-! ## Operators -/

/-- The operators between two expressions, each in front of those that it begins with. -/
def binaryOperators : List (String × Precedence) := [
  ("+=", .assign), ("-=", .assign), ("*=", .assign), ("/=", .assign), ("%=", .assign),
  ("^=", .assign), ("&=", .assign), ("|=", .assign), ("<<=", .assign), (">>=", .assign),
  ("&&", .and), ("||", .or), ("<<", .shift), (">>", .shift), ("==", .compare), ("<=", .compare),
  ("!=", .compare), (">=", .compare), ("+", .sum), ("-", .sum), ("*", .product), ("/", .product),
  ("%", .product), ("^", .bitXor), ("&", .bitAnd), ("|", .bitOr), ("<", .compare),
  (">", .compare)]

/-- The operator that comes next. -/
def binaryOperator? (ts : List Token) : Option (String × Precedence) :=
  binaryOperators.find? fun (text, _) => startsOp text ts

/-- The precedence of an operator between two expressions. -/
def operatorPrecedence (text : String) : Precedence :=
  ((binaryOperators.find? (·.1 = text)).map (·.2)).getD .jump

/-- Whether a plain assignment comes next. -/
def startsAssignment (ts : List Token) : Bool := startsOp "=" ts && !startsOp "=>" ts

/-- The precedence of what comes next. -/
def nextPrecedence (ts : List Token) : Precedence :=
  match binaryOperator? ts with
  | some (_, precedence) => precedence
  | none =>
    if startsAssignment ts then .assign
    else if startsOp ".." ts then .range
    else if startsWord "as" ts then .cast
    else .jump

/-- Whether an expression is a comparison. -/
def isComparison : Tree → Bool
  | .node .exprBinary [_, _, .op text, _] => operatorPrecedence text = .compare
  | _ => false

variable (sub : Goal → Parser Tree)

/-! ## Operands with prefixes -/

/-- Whether a closure comes next. -/
def startsClosure (ts : List Token) : Bool :=
  let second := skip ts
  startsOp "|" ts || startsWord "move" ts || (startsWord "for" ts && startsGenerics second) ||
    (startsWord "const" ts && !startsGroup .brace second) || startsWord "static" ts ||
    (startsWord "async" ts && (startsOp "|" second || startsWord "move" second))

/-- Whether a block whose value is awaited comes next. -/
def startsAsyncBlock (ts : List Token) : Bool :=
  let second := skip ts
  startsWord "async" ts && (startsGroup .brace second ||
    (startsWord "move" second && startsGroup .brace (skipTwo ts)))

/-- Whether a loop over a sequence comes next. -/
def startsForLoop (ts : List Token) : Bool := startsWord "for" ts && !startsGenerics (skip ts)

/-- Whether a word in front of a block comes next. -/
def startsBlockAfter (keyword : String) (ts : List Token) : Bool :=
  startsWord keyword ts && startsGroup .brace (skip ts)

/-- The upper bound of a range, which may be missing behind two dots. -/
def rangeEnd (limits : Tree) (structs : Bool) (rhs : Parser Tree) : Parser Tree := do
  if !isInclusive limits && endsRange structs (← ahead) then return .absent else rhs

/-- An expression to the right of an operator: everything that holds together more tightly. -/
def rightSide (structs : Bool) (precedence : Precedence) : Parser Tree := do
  let first ← sub (.unary structs)
  iterate (fun found => do
    let ts ← ahead
    let next := nextPrecedence ts
    if precedence < next || (next = precedence && precedence = .assign) then
      let more ← sub (.continued found structs next)
      return (more, (← ahead).length < ts.length)
    else return (found, false)) first

/-- A range without lower bound. -/
def openRange (structs : Bool) : Parser Tree := do
  let limits ← rangeLimits
  return .node .exprRange
    [noAttributes, .absent, limits, ← rangeEnd limits structs (rightSide sub structs .range)]

/-- An innermost part of an expression. -/
def atom (structs : Bool) : Parser Tree := do
  let ts ← ahead
  if startsLiteral ts then return .node .exprLit (noAttributes :: (← literal))
  if startsAsyncBlock ts then
    let keyword ← word "async"
    let moveness ← optionalWord "move"
    return .node .exprAsync [noAttributes, keyword, moveness, ← sub (.block false)]
  if startsBlockAfter "try" ts then return ← keywordBlock sub .exprTryBlock "try" false
  if startsClosure ts then return ← exprClosure sub structs
  if startsWord "builtin" ts && startsOp "#" (skip ts) then
    return ← verbatim do
      let _ ← word "builtin"
      let _ ← op "#"
      let _ ← ident
      require (startsGroup .parenthesis (← ahead))
      let _ ← rawGroup
  if startsPathName ts || startsSomeOp ["::", "<"] ts ||
      (startsWord "try" ts && startsSomeOp ["!", "::"] (skip ts)) then
    return ← exprOfPath sub structs
  if startsGroup .parenthesis ts then return ← exprParenthesized sub
  if startsWord "break" ts then return ← exprBreak sub structs
  if startsWord "continue" ts then
    return .node .exprContinue [noAttributes, ← word "continue", ← optionalLifetime]
  if startsWord "return" ts then return ← exprWithValue sub .exprReturn "return"
  if startsWord "become" ts then
    return ← verbatim do
      let _ ← word "become"
      let _ ← sub (.expr true)
  if startsGroup .bracket ts then return ← exprBracketed sub
  if startsWord "let" ts then return ← exprLet sub structs
  if startsWord "if" ts then return ← sub .conditional
  if startsWord "while" ts then return ← exprWhile sub .absent
  if startsWord "for" ts then return ← exprForLoop sub .absent
  if startsWord "loop" ts then return ← exprLoop sub .absent
  if startsWord "match" ts then return ← exprMatch sub
  if startsWord "yield" ts then return ← exprWithValue sub .exprYield "yield"
  if startsWord "unsafe" ts then return ← keywordBlock sub .exprUnsafe "unsafe" true
  if startsWord "const" ts then return ← constBlock sub []
  if startsGroup .brace ts then
    return .node .exprBlock [noAttributes, .absent, ← sub (.block true)]
  if startsOp ".." ts then return ← openRange sub structs
  if startsWord "_" ts then return .node .exprInfer [noAttributes, ← anyWord]
  exprLabelled sub

/-- An operand with its prefix operators, its attributes in front. A range without lower bound takes
no attributes. -/
def unary (structs : Bool) : Parser Tree := do
  let start ← ahead
  let attributes ← outerAttributes sub
  let all := Tree.node .attributes attributes
  let ts ← ahead
  if startsOp "&" ts then
    let ampersand ← op "&"
    let ts ← ahead
    if startsWord "raw" ts && startsSomeWord ["mut", "const"] (skip ts) then
      let raw ← anyWord
      let mutability ← anyWord
      return .node .exprRawAddress [all, ampersand, raw, mutability, ← sub (.unary structs)]
    let mutability ← optionalWord "mut"
    return .node .exprReference [all, ampersand, mutability, ← sub (.unary structs)]
  if startsOp "*" ts then return .node .exprUnary [all, ← op "*", ← sub (.unary structs)]
  if startsOp "!" ts then return .node .exprUnary [all, ← op "!", ← sub (.unary structs)]
  if startsOp "-" ts then return .node .exprUnary [all, ← op "-", ← sub (.unary structs)]
  let found ← accesses sub (← atom sub structs)
  if found.isKind .verbatim then return ← since start
  require (attributes.isEmpty || !found.isKind .exprRange)
  return addAttributes attributes found

/-! ## Combinations -/

/-- Whether a cast is followed by something that would belong to its type. -/
def endsCast (ts : List Token) : Bool :=
  (startsOp "." ts && !startsOp ".." ts) || startsOp "?" ts || startsGroup .bracket ts ||
    startsGroup .parenthesis ts

/-- Operators and their right sides behind an expression, down to a precedence. -/
def continued (lhs : Tree) (structs : Bool) (base : Precedence) : Parser Tree :=
  iterate (fun found => do
    let ts ← ahead
    if found.isKind .exprRange then return (found, false)
    match binaryOperator? ts with
    | some (text, precedence) =>
      if precedence < base then return (found, false)
      require !(precedence = .compare && isComparison found)
      let operator ← op text
      let right ← rightSide sub structs precedence
      return (.node .exprBinary [noAttributes, found, operator, right], true)
    | none =>
      if base ≤ .assign && startsAssignment ts then
        let equals ← op "="
        let right ← rightSide sub structs .assign
        return (.node .exprAssign [noAttributes, found, equals, right], true)
      if base ≤ .range && startsOp ".." ts then
        let limits ← rangeLimits
        let stop ← rangeEnd limits structs (rightSide sub structs .range)
        return (.node .exprRange [noAttributes, found, limits, stop], true)
      if base ≤ .cast && startsWord "as" ts then
        let keyword ← word "as"
        let type ← sub (.type false)
        require !(endsCast (← ahead))
        return (.node .exprCast [noAttributes, found, keyword, type], true)
      return (found, false)) lhs

/-- An expression. -/
def expr (structs : Bool) : Parser Tree := do
  let lhs ← sub (.unary structs)
  sub (.continued lhs structs .jump)

/-- An expression where one that ends in a block is complete, unless an access follows. -/
def earlyExpr : Parser Tree := do
  let attributes ← outerAttributes sub
  let ts ← ahead
  let found ←
    if startsWord "if" ts then sub .conditional
    else if startsWord "while" ts then exprWhile sub .absent
    else if startsForLoop ts then exprForLoop sub .absent
    else if startsWord "loop" ts then exprLoop sub .absent
    else if startsWord "match" ts then exprMatch sub
    else if startsBlockAfter "try" ts then keywordBlock sub .exprTryBlock "try" false
    else if startsWord "unsafe" ts then keywordBlock sub .exprUnsafe "unsafe" true
    else if startsBlockAfter "const" ts then constBlock sub []
    else if startsGroup .brace ts then do
      pure (Tree.node .exprBlock [noAttributes, .absent, ← sub (.block true)])
    else if startsLifetime ts then exprLabelled sub
    else sub (.unary true)
  let ts ← ahead
  if !isBlockLike found then
    return ← sub (.continued (addAttributes attributes found) true .jump)
  if (startsOp "." ts && !startsOp ".." ts) || startsOp "?" ts then
    let more ← accesses sub found
    return ← sub (.continued (addAttributes attributes more) true .jump)
  return addAttributes attributes found

end RouteRegistrar.Grammar
