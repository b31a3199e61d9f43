import RouteRegistrar.Grammar.Path

/-!
# Bounds, generic parameters and generic arguments

In a list of parameters or arguments, lifetimes are moved to the front.
-/

namespace RouteRegistrar.Grammar

open RouteRegistrar.Parser RouteRegistrar.Token

variable (sub : Goal → Parser Tree)

/-! ## Bounds -/

/-- What may stand behind an arrow. -/
def returnType (plus : Bool) : Parser Tree :=
  optional (startsOp "->") do return .node .returnType [← op "->", ← sub (.type plus)]

/-- Arguments of a function trait. -/
def parenArguments : Parser Tree := do
  let inputs ← within .parenthesis do return [← separated "," (sub (.type true))]
  return .node .parenArguments [inputs, ← returnType sub false]

/-- Gives the last segment of a path arguments. -/
def setLastArguments (arguments : Tree) : Tree → Tree
  | .node kind children =>
    match children.reverse with
    | .node .segment (name :: _) :: before =>
      .node kind (before.reverse ++ [.node .segment [name, arguments]])
    | _ => .node kind children
  | other => other

/-- Whether the last segment of a path has no arguments. -/
def lastIsPlain (path : Tree) : Bool :=
  match path.children.getLast? with
  | some (.node .segment [_, arguments]) => arguments.isAbsent
  | _ => false

/-- The path of a trait, whose last segment may have arguments in parentheses. -/
def traitPath : Parser Tree := do
  let found ← path sub false
  let ts ← ahead
  if lastIsPlain found &&
      (startsGroup .parenthesis ts ||
        (startsOp "::" ts && startsGroup .parenthesis (skipTwo ts))) then
    let _ ← optionalOp "::"
    return setLastArguments (← parenArguments sub) found
  return found

/-- Lifetimes and other parameters bound in front of a trait or a function. -/
def boundLifetimes : Parser Tree :=
  optional (startsWord "for") do
    return .node .boundLifetimes [← word "for", ← op "<", ← angleList (sub .parameter), ← op ">"]

/-- A lifetime parameter with its bounds. -/
def lifetimeParam (attributes : List Tree) : Parser Tree := do
  let own ← outerAttributes sub
  let name ← lifetime
  let colon ← optionalOp ":"
  let stops (ts : List Token) : Bool := ts.isEmpty || startsSomeOp [",", ">"] ts
  let bounds ← follow colon (listUntil stops "+" lifetime)
  let bare : Bool := bounds.children.isEmpty
  return .node .lifetimeParam [.node .attributes (attributes ++ own), name,
    if bare then .absent else colon, if bare then .absent else bounds]

/-- What ends a list of bounds in a `where` clause. -/
def endsBounds (ts : List Token) : Bool :=
  ts.isEmpty || startsGroup .brace ts || startsSomeOp [",", ";", "="] ts ||
    (startsOp ":" ts && !startsOp "::" ts)

/-- A trait, possibly constant, relaxed or with bound lifetimes. The flag says whether it is
constant, which has no form of its own. -/
def traitBound (mayBeConst : Bool) : Parser (Tree × Bool) := do
  let early ← boundLifetimes sub
  let conditional ← look (startsGroup .bracket)
  let isConst := conditional || (← look (startsWord "const"))
  if conditional then
    let _ ← within .bracket do return [← word "const"]
  else
    let _ ← optionalWord "const"
  require (mayBeConst || !isConst)
  let relaxed ← optionalOp "?"
  let lifetimes ← if early.isAbsent && !relaxed.isAbsent then boundLifetimes sub else pure early
  let name ← traitPath sub
  require (lifetimes.isAbsent || relaxed.isAbsent)
  return (.node .traitBound [relaxed, lifetimes, name], isConst)

/-- Whether an item of a list is a lifetime. -/
def isLifetimeItem : Tree → Bool
  | .lifetime _ => true
  | tree => tree.isKind .lifetimeParam

/-- The parameters that a type captures. -/
def preciseCapture : Parser Tree := do
  let keyword ← word "use"
  let opening ← op "<"
  let list ← angleList do
    let ts ← ahead
    if startsLifetime ts then lifetime
    else
      require (startsIdent ts || startsWord "Self" ts)
      anyWord
  return .node .preciseCapture [keyword, opening, moveToFront isLifetimeItem list, ← op ">"]

/-- A bound: a lifetime, captured parameters or a trait. -/
def bound (mayCapture mayBeConst : Bool) : Parser Tree := do
  let start ← ahead
  if startsLifetime start then return ← lifetime
  if startsWord "use" start then
    require mayCapture
    return ← preciseCapture
  if startsGroup .parenthesis start then
    let (found, isConst) ← inside .parenthesis (traitBound sub mayBeConst)
    if isConst then since start
    else return .node .parenBound [.group .parenthesis [found]]
  else
    let (found, isConst) ← traitBound sub mayBeConst
    if isConst then since start else return found

/-- Whether another bound may follow a plus. -/
def startsBound (mayBeConst : Bool) (ts : List Token) : Bool :=
  startsAnyWord ts || startsSomeOp ["::", "?"] ts || startsLifetime ts ||
    startsGroup .parenthesis ts || (mayBeConst && startsGroup .bracket ts)

/-- A sum of bounds behind a keyword. `plus` says whether it may have more than one. The bounds of a
hidden type may capture parameters and may be constant. -/
def boundSum (plus isHidden : Bool) : Parser Tree := do
  let found ← iterate (fun done => do
    let item ← bound sub isHidden isHidden
    if plus && startsOp "+" (← ahead) then
      let sum ← op "+"
      return (sum :: item :: done, startsBound isHidden (← ahead))
    else return (item :: done, false)) []
  return .node .punctuated found.reverse

/-- Whether some bound is a trait. -/
def hasTrait (bounds : Tree) : Bool :=
  bounds.items.any fun item =>
    item.isKind .traitBound || item.isKind .parenBound || item.isKind .verbatim

/-! ## Parameters -/

/-- A constant argument: a literal, a name or a block. -/
def constArgument : Parser Tree := do
  let ts ← ahead
  if startsLiteral ts then return .node .exprLit (noAttributes :: (← literal))
  if startsIdent ts then return .node .exprPath [noAttributes, plainPath (← ident)]
  return .node .exprBlock [noAttributes, .absent, ← sub (.block true)]

/-- A type parameter behind its attributes and its name. -/
def typeParamRest (attributes : List Tree) (name : Tree) : Parser Tree := do
  let colon ← optionalOp ":"
  let stops (ts : List Token) : Bool := ts.isEmpty || startsSomeOp [",", ">", "="] ts
  let bounds ← follow colon (listUntil stops "+" (bound sub false true))
  let bare : Bool := bounds.children.isEmpty
  let equals ← optionalOp "="
  let type ← follow equals (sub (.type true))
  return .node .typeParam [.node .attributes attributes, name, if bare then .absent else colon,
    if bare then .absent else bounds, equals, type]

/-- A generic parameter. -/
def genericParam : Parser Tree := do
  let attributes ← outerAttributes sub
  let ts ← ahead
  if startsLifetime ts then return ← lifetimeParam sub attributes
  if !startsWord "const" ts then return ← typeParamRest sub attributes (← ident)
  let keyword ← word "const"
  let name ← ident
  let colon ← op ":"
  let type ← sub (.type true)
  let equals ← optionalOp "="
  return .node .constParam [.node .attributes attributes, keyword, name, colon, type, equals,
    ← follow equals (constArgument sub)]

/-- The parameters of an item. A parameter without a name is a low line. An empty list is absent. -/
def generics : Parser Tree := do
  if !startsOp "<" (← ahead) then return .absent
  let opening ← op "<"
  let list ← angleList do
    let isNameless ← accepts do
      let _ ← outerAttributes sub
      word "_"
    if isNameless then
      let attributes ← outerAttributes sub
      return .node .typeParam
        [.node .attributes attributes, ← anyWord, .absent, .absent, .absent, .absent]
    sub .parameter
  let closing ← op ">"
  if list.children.isEmpty then return .absent
  return .node .generics [opening, moveToFront isLifetimeItem list, closing]

/-- A condition of a `where` clause. -/
def predicate : Parser Tree := do
  let ts ← ahead
  if startsLifetime ts && startsOp ":" (skip ts) then
    let name ← lifetime
    let colon ← op ":"
    let stops (ts : List Token) : Bool :=
      ts.isEmpty || startsGroup .brace ts || startsSomeOp [",", ";", ":", "="] ts
    return .node .lifetimePredicate [name, colon, ← listUntil stops "+" lifetime]
  let lifetimes ← boundLifetimes sub
  let type ← sub (.type true)
  let colon ← op ":"
  return .node .typePredicate [lifetimes, type, colon,
    ← listUntil endsBounds "+" (bound sub false true)]

/-- The conditions of an item. An empty clause is absent. -/
def whereClause : Parser Tree := do
  if !startsWord "where" (← ahead) then return .absent
  let keyword ← word "where"
  let list ← listUntil endsBounds "," (predicate sub)
  if list.children.isEmpty then return .absent
  return .node .whereClause [keyword, list]

/-! ## Arguments -/

/-- The name and the arguments of a type that is a single name. -/
def singleName? : Tree → Option (Tree × Tree)
  | .node .typePath [.node .path [colons, .node .segment [name, arguments]]] =>
    if colons.isAbsent then some (name, arguments) else none
  | _ => none

/-- A generic argument: a lifetime, a constant, a type, or an item of a trait with its value or its
bounds. -/
def argument : Parser Tree := do
  let ts ← ahead
  if startsLifetime ts && !startsOp "+" (skip ts) then return ← lifetime
  if startsLiteral ts || startsGroup .brace ts then return ← constArgument sub
  let type ← sub (.type true)
  match singleName? type with
  | none => return type
  | some (name, arguments) =>
    let ts ← ahead
    if startsOp "=" ts then
      let equals ← op "="
      let ts ← ahead
      if startsLiteral ts || startsGroup .brace ts then
        return .node .assocConst [name, arguments, equals, ← constArgument sub]
      return .node .assocType [name, arguments, equals, ← sub (.type true)]
    if startsOp ":" ts then
      let colon ← op ":"
      return .node .constraint [name, arguments, colon,
        ← listUntil (startsSomeOp [",", ">"]) "+" (bound sub false true)]
    return type

/-- Arguments in angle brackets. -/
def angleArguments : Parser Tree := do
  let colons ← optionalOp "::"
  let opening ← op "<"
  let list ← angleList (argument sub)
  return .node .angleArguments [colons, opening, moveToFront isLifetimeItem list, ← op ">"]

/-- Whether generic parameters come next, and not a path that starts at a type. -/
def startsGenerics (ts : List Token) : Bool :=
  let second := skip ts
  let third := skipTwo ts
  startsOp "<" ts &&
    (startsSomeOp [">", "#"] second || startsWord "const" second ||
      ((startsLifetime second || startsIdent second) &&
        (startsSomeOp [">", ",", "="] third || (startsOp ":" third && !startsOp "::" third))))

end RouteRegistrar.Grammar
