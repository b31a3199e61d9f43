import RouteRegistrar.Grammar.Pattern

/-!
# Visibility and signatures of functions
-/

namespace RouteRegistrar.Grammar

open RouteRegistrar.Parser RouteRegistrar.Token

/-! ## Visibility -/

/-- The content of a restricted visibility. -/
def restriction : Parser (List Tree) := do
  if startsWord "in" (← ahead) then return [← word "in", ← modulePath]
  require (startsSomeWord ["crate", "self", "super"] (← ahead))
  return [plainPath (← anyWord)]

/-- The visibility of an item, or absent. Parentheses that do not restrict it belong to what
follows. -/
def visibility : Parser Tree := do
  if !startsWord "pub" (← ahead) then return .absent
  let keyword ← word "pub"
  match ← ahead with
  | .group .parenthesis content :: _ =>
    let isPath := startsWord "in" content
    let isName := startsSomeWord ["crate", "self", "super"] content && (skip content).isEmpty
    if isPath || isName then
      return .node .visibility [keyword, ← within .parenthesis restriction]
    return .node .visibility [keyword, .absent]
  | _ => return .node .visibility [keyword, .absent]

/-! ## Signatures -/

/-- The tokens behind a word that may be missing. -/
def skipWord (text : String) (ts : List Token) : List Token :=
  if startsWord text ts then skip ts else ts

/-- The tokens behind a calling convention that may be missing. -/
def skipAbi (ts : List Token) : List Token :=
  if startsWord "extern" ts then
    let rest := skip ts
    if startsString rest then skip rest else rest
  else ts

/-- Whether the signature of a function comes next. `safe` is a further qualifier of foreign
functions. -/
def startsSignature (mayBeSafe : Bool) (ts : List Token) : Bool :=
  let qualified := skipWord "async" (skipWord "const" ts)
  let marked := if mayBeSafe && startsWord "safe" qualified then skip qualified
    else skipWord "unsafe" qualified
  startsWord "fn" (skipAbi marked)

variable (sub : Goal → Parser Tree)

/-- The receiver of a method. -/
def receiver (attributes : List Tree) : Parser Tree := do
  let reference ← optionalOp "&"
  let name ← follow reference optionalLifetime
  let mutability ← optionalWord "mut"
  let self ← word "self"
  let colon ← if reference.isAbsent then optionalOp ":" else pure .absent
  return .node .receiver [.node .attributes attributes, reference, name, mutability, self, colon,
    ← follow colon (sub (.type true))]

/-- Dots that stand for more parameters, behind an optional pattern. -/
def variadic (attributes : List Tree) (pattern colon : Tree) : Parser Tree := do
  let dots ← op "..."
  let comma ← if (← ahead).isEmpty then pure Tree.absent else op ","
  return .node .variadic [.node .attributes attributes, pattern, colon, dots, comma]

/-- A parameter with a pattern and a type. A generic type may stand without a pattern. -/
def typedParameter (attributes : List Tree) : Parser Tree := do
  let all := Tree.node .attributes attributes
  let ts ← ahead
  if startsIdent ts && startsOp "<" (skip ts) then
    return .node .patType [all, .node .patWild [.word "_"], .op ":", ← sub (.type true)]
  let pattern ← sub .pattern
  let colon ← op ":"
  if startsOp "..." (← ahead) then return ← variadic attributes pattern colon
  return .node .patType [all, pattern, colon, ← sub (.type true)]

/-- A parameter of a function. Only the first one may be a receiver. -/
def parameter (isFirst : Bool) : Parser Tree := do
  let attributes ← outerAttributes sub
  if startsOp "..." (← ahead) then return ← variadic attributes .absent .absent
  let found ← either (receiver sub attributes) (typedParameter sub attributes)
  require (isFirst || !found.isKind .receiver)
  return found

/-- The parameters of a function. -/
def parameters : Parser Tree := do
  let found ← iterate (fun done => do
    if (← ahead).isEmpty then return (done, false)
    let item ← parameter sub done.isEmpty
    if item.isKind .variadic || (← ahead).isEmpty then return (item :: done, false)
    else return ((← op ",") :: item :: done, true)) []
  return .node .punctuated found.reverse

/-- A signature whose qualifier of safety is read by `safety`. -/
def signatureWith (safety : Parser Tree) : Parser Tree := do
  let constness ← optionalWord "const"
  let asyncness ← optionalWord "async"
  let safe ← safety
  let convention ← optional (startsWord "extern") abi
  let keyword ← word "fn"
  let name ← ident
  let params ← generics sub
  let inputs ← within .parenthesis do return [← parameters sub]
  let output ← returnType sub true
  return .node .signature [constness, asyncness, safe, convention, keyword, name, params, inputs,
    output, ← whereClause sub]

/-- The signature of a function. -/
def signature : Parser Tree := signatureWith sub (optionalWord "unsafe")

end RouteRegistrar.Grammar
