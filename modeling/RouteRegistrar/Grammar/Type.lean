import RouteRegistrar.Grammar.Generics

/-!
# Types
-/

namespace RouteRegistrar.Grammar

open RouteRegistrar.Parser RouteRegistrar.Token

variable (sub : Goal → Parser Tree)

/-! ## Functions -/

/-- The calling convention of a function. -/
def abi : Parser Tree := do
  return .node .abi [← word "extern", ← optional startsString do
    let found ← literal
    return found.headD .absent]

/-- A name and a colon in front of the type of an argument. -/
def startsArgumentName (ts : List Token) : Bool :=
  (startsIdent ts || startsWord "_" ts) && startsOp ":" (skip ts)

/-- An argument of a function type. The first one may be `self`, with or without `mut`. -/
def functionArgument (attributes : List Tree) (isFirst : Bool) : Parser Tree := do
  let own ← outerAttributes sub
  let start ← ahead
  let mutable : Bool := isFirst && startsWord "mut" start && startsWord "self" (skip start)
  if mutable then let _ ← word "mut"
  let ts ← ahead
  let isSelf : Bool := isFirst && startsWord "self" ts
  let isNamed : Bool := (startsIdent ts || startsWord "_" ts || isSelf) &&
    startsOp ":" (skip ts) && !startsOp "::" (skip ts)
  let all := Tree.node .attributes (attributes ++ own)
  if isNamed then
    let name ← anyWord
    let colon ← op ":"
    let type ← sub (.type true)
    if mutable then return .node .functionArgument [all, .absent, .absent, ← since start]
    return .node .functionArgument [all, name, colon, type]
  if mutable then
    let _ ← word "self"
    return .node .functionArgument [all, .absent, .absent, ← since start]
  return .node .functionArgument [all, .absent, .absent, ← sub (.type true)]

/-- Dots that stand for more arguments. -/
def functionVariadic (attributes : List Tree) : Parser Tree := do
  let ts ← ahead
  let isNamed : Bool := startsIdent ts || startsWord "_" ts
  let name ← if isNamed then anyWord else pure .absent
  let colon ← follow name (op ":")
  let dots ← op "..."
  return .node .functionVariadic [.node .attributes attributes, name, colon, dots, ← optionalOp ","]

/-- The arguments of a function type. -/
def functionArguments : Parser Tree := do
  let found ← iterate (fun done => do
    if (← ahead).isEmpty then return (done, false)
    let attributes ← outerAttributes sub
    let ts ← ahead
    if startsOp "..." ts || (startsArgumentName ts && startsOp "..." (skipTwo ts)) then
      return ((← functionVariadic attributes) :: done, false)
    let item ← functionArgument sub attributes done.isEmpty
    if (← ahead).isEmpty then return (item :: done, false)
    else return ((← op ",") :: item :: done, true)) []
  return .node .punctuated found.reverse

/-- A function type behind its bound lifetimes. -/
def typeFunction (lifetimes : Tree) : Parser Tree := do
  let safety ← optionalWord "unsafe"
  let convention ← optional (startsWord "extern") abi
  let keyword ← word "fn"
  let inputs ← within .parenthesis do return [← functionArguments sub]
  return .node .typeFunction
    [lifetimes, safety, convention, keyword, inputs, ← returnType sub false]

/-! ## Sums of bounds -/

/-- More bounds behind a first one that is already read. -/
def boundsAfter (first : Tree) : Parser Tree := do
  let found ← iterate (fun done => do
    if startsOp "+" (← ahead) then
      let sum ← op "+"
      let item ← bound sub false false
      return (item :: sum :: done, true)
    else return (done, false)) [first]
  return .node .punctuated found.reverse

/-- A sum of bounds that begins with a path. The last plus may stand alone. -/
def boundsAfterPath (first : Tree) : Parser Tree := do
  let found ← iterate (fun done => do
    if !startsOp "+" (← ahead) then return (done, false)
    let sum ← op "+"
    if startsBound false (← ahead) then
      let item ← bound sub false false
      return (item :: sum :: done, true)
    else return (sum :: done, false)) [first]
  return .node .punctuated found.reverse

/-- A trait object, given its bounds. -/
def traitObject (keyword bounds : Tree) : Tree := .node .typeTraitObject [keyword, bounds]

/-- The bound that a type in parentheses is, if it can be one. -/
def boundOfParenthesized? : Tree → Option Tree
  | .node .typePath [.node .path children] =>
    some (.node .parenBound [.group .parenthesis
      [.node .traitBound [.absent, .absent, .node .path children]]])
  | .node .typeTraitObject [.node .absent _, .node .punctuated [only]] =>
    match only with
    | .node .traitBound children =>
      some (.node .parenBound [.group .parenthesis [.node .traitBound children]])
    | other => some other
  | _ => none

/-- A sum of bounds that has to have a trait. -/
def traitSum (plus isHidden : Bool) : Parser Tree := do
  let bounds ← boundSum sub plus isHidden
  require (hasTrait bounds)
  return bounds

/-! ## Types in brackets -/

/-- What stands in the parentheses of a type, as the children of the group. -/
inductive Parenthesized where
  /-- A tuple. -/
  | tuple (content : Tree)
  /-- A type or a trait object of its own. -/
  | single (type : Tree)
  /-- A relaxed trait, which has to be part of a sum. -/
  | relaxed (bound : Tree)

/-- The content of the parentheses of a type. -/
def parenthesizedContent : Parser Parenthesized := do
  let ts ← ahead
  if ts.isEmpty then return .tuple (.node .punctuated [])
  if startsLifetime ts then return .single (traitObject .absent (← traitSum sub true false))
  if startsOp "?" ts then return .relaxed (← traitBound sub false).1
  let first ← sub (.type true)
  if !startsOp "," (← ahead) then return .single first
  let comma ← op ","
  let rest ← separated "," (sub (.type true))
  return .tuple (.node .punctuated (first :: comma :: rest.children))

/-- A type in parentheses, a tuple, or a sum that begins with a bound in parentheses. -/
def typeParenthesized (plus : Bool) : Parser Tree := do
  match ← inside .parenthesis (parenthesizedContent sub) with
  | .tuple elements => return .node .typeTuple [.group .parenthesis [elements]]
  | .relaxed bound =>
    return traitObject .absent
      (← boundsAfter sub (.node .parenBound [.group .parenthesis [bound]]))
  | .single type =>
    if plus && startsOp "+" (← ahead) then
      if let some first := boundOfParenthesized? type then
        return traitObject .absent (← boundsAfter sub first)
    return .node .typeParen [.group .parenthesis [type]]

/-- A slice or an array. -/
def typeBracketed : Parser Tree := do
  let content ← within .bracket do
    let type ← sub (.type true)
    if startsOp ";" (← ahead) then return [type, ← op ";", ← sub (.expr true)]
    return [type]
  return .node (if content.children.length = 1 then .typeSlice else .typeArray) [content]

/-! ## Types -/

/-- Words that may begin a type behind bound lifetimes. -/
def startsBoundType (ts : List Token) : Bool :=
  startsPathName ts || startsSomeWord ["fn", "unsafe", "extern"] ts

/-- A type that begins with a path. -/
def typeOfPath (lifetimes : Tree) (plus : Bool) : Parser Tree := do
  let found ← qualifiedPath sub false
  if found.isKind .qualifiedPath then return .node .typePath [found]
  let ts ← ahead
  if startsBang ts && isPlain found then return .node .typeMacro [← macroRest found]
  let first := Tree.node .traitBound [.absent, lifetimes, found]
  if plus && startsOp "+" ts then return traitObject .absent (← boundsAfterPath sub first)
  if !lifetimes.isAbsent then return traitObject .absent (.node .punctuated [first])
  return .node .typePath [found]

/-- A trait object behind its keyword. A star behind the keyword has no form of its own. -/
def typeDyn (plus : Bool) : Parser Tree := do
  let start ← ahead
  let keyword ← word "dyn"
  let star ← optionalOp "*"
  let bounds ← traitSum sub plus false
  if star.isAbsent then return traitObject keyword bounds else since start

/-- A type that the compiler provides, with its arguments. -/
def builtin : Parser Tree :=
  verbatim do
    let _ ← word "builtin"
    let _ ← op "#"
    let _ ← ident
    require (startsGroup .parenthesis (← ahead))
    let _ ← rawGroup

/-- A type. `plus` says whether it may be a sum of bounds. -/
def type (plus : Bool) : Parser Tree := do
  let start ← ahead
  let lifetimes ← boundLifetimes sub
  let ts ← ahead
  if !lifetimes.isAbsent then require (startsBoundType ts)
  if startsGroup .parenthesis ts then typeParenthesized sub plus
  else if startsSomeWord ["fn", "unsafe", "extern"] ts then typeFunction sub lifetimes
  else if startsWord "builtin" ts && startsOp "#" (skip ts) then builtin
  else if startsPathName ts || startsSomeOp ["::", "<"] ts then typeOfPath sub lifetimes plus
  else if startsWord "dyn" start then typeDyn sub plus
  else if startsGroup .bracket ts then typeBracketed sub
  else if startsOp "*" ts then
    let star ← op "*"
    let mutability ← if startsWord "const" (← ahead) then word "const" else word "mut"
    return .node .typePointer [star, mutability, ← sub (.type false)]
  else if startsOp "&" ts then
    let ampersand ← op "&"
    let name ← optionalLifetime
    let mutability ← optionalWord "mut"
    return .node .typeReference [ampersand, name, mutability, ← sub (.type false)]
  else if startsOp "!" ts && !startsOp "=" ts then return .node .typeNever [← op "!"]
  else if startsWord "impl" ts then
    let keyword ← word "impl"
    return .node .typeImplTrait [keyword, ← traitSum sub plus true]
  else if startsWord "_" ts then return .node .typeInfer [← word "_"]
  else if startsLifetime ts then return traitObject .absent (← traitSum sub true false)
  else failure

end RouteRegistrar.Grammar
