import RouteRegistrar.Grammar.Item

/-!
# Members of traits, `impl` blocks and foreign modules
-/

namespace RouteRegistrar.Grammar

open RouteRegistrar.Parser RouteRegistrar.Token

variable (sub : Goal → Parser Tree)

/-- The call of a macro as a member. -/
def memberMacro : Parser Tree := do
  let call ← macroCall
  return .node .memberMacro [noAttributes, call, ← macroEnd (hasBraces call)]

/-- Whether the call of a macro may come next. -/
def startsMacro (ts : List Token) : Bool :=
  startsIdent ts || startsOp "::" ts || startsSomeWord ["self", "super", "crate"] ts

/-! ## Members of `impl` blocks -/

/-- A method or an associated function. Without a body it is kept as plain tokens. -/
def implFn (start : List Token) : Parser Tree := do
  let visible ← visibility
  let defaultness ← optionalWord "default"
  let sig ← signature sub
  if startsOp ";" (← ahead) then
    let _ ← op ";"
    return ← since start
  return .node .implFn [noAttributes, visible, defaultness, sig, ← sub (.block true)]

/-- An associated type. Without a value, or with bounds, it is kept as plain tokens. -/
def implType (start : List Token) : Parser Tree := do
  let visible ← visibility
  let defaultness ← optionalWord "default"
  let t ← typeItem sub .behindValue
  if t.equals.isAbsent || !t.colon.isAbsent then return ← since start
  return .node .implType [noAttributes, visible, defaultness, t.keyword, t.name, t.generics,
    t.equals, t.value, t.conditions, t.semicolon]

/-- A member of an `impl` block. -/
def implItem : Parser Tree := do
  let start ← ahead
  let attributes ← outerAttributes sub
  let here ← ahead
  let (visible, behind) ← match visibility here with
    | some found => pure found
    | none => failure
  let isDefault : Bool := startsWord "default" behind && !startsOp "!" (skip behind)
  let ts := if isDefault then skip behind else behind
  let found ←
    if startsWord "fn" ts || startsSignature false ts then implFn sub start
    else if startsWord "const" ts then do
      let visible ← visibility
      let defaultness ← if isDefault then anyWord else pure .absent
      constRest sub start .implConst [noAttributes, visible, defaultness] false
    else if startsWord "type" ts then implType sub start
    else do
      require (visible.isAbsent && !isDefault && startsMacro ts)
      memberMacro
  return addAttributes attributes found

/-! ## Members of traits -/

/-- A method or an associated function of a trait, with or without a body. -/
def traitFn : Parser Tree := do
  let sig ← signature sub
  if startsGroup .brace (← ahead) then
    return .node .traitFn [noAttributes, sig, ← sub (.block true)]
  return .node .traitFn [noAttributes, sig, ← op ";"]

/-- An associated type of a trait. -/
def traitType (start : List Token) : Parser Tree := do
  let visible ← visibility
  let t ← typeItem sub .behindValue
  if !visible.isAbsent then return ← since start
  let bare : Bool := t.bounds.children.isEmpty
  return .node .traitType [noAttributes, t.keyword, t.name, t.generics,
    if bare then .absent else t.colon, if bare then .absent else t.bounds, t.equals, t.value,
    t.conditions, t.semicolon]

/-- A member of a trait. One with a visibility, or a default one, is kept as plain tokens. -/
def traitItem : Parser Tree := do
  let start ← ahead
  let attributes ← outerAttributes sub
  let visible ← visibility
  let defaultness ← optionalWord "default"
  let ts ← ahead
  let found ←
    if startsWord "fn" ts || startsSignature false ts then traitFn sub
    else if startsWord "const" ts then constRest sub start .traitConst [noAttributes] true
    else if startsWord "type" ts then traitType sub start
    else do
      require (visible.isAbsent && defaultness.isAbsent && startsMacro ts)
      memberMacro
  if visible.isAbsent && defaultness.isAbsent then return addAttributes attributes found
  since start

/-! ## Members of foreign modules -/

/-- A foreign function. With a body or a further qualifier it is kept as plain tokens. -/
def foreignFn (start : List Token) : Parser Tree := do
  let visible ← visibility
  let isSafe ← look (startsWord "safe" <| skipWord "async" <| skipWord "const" ·)
  let sig ← signatureWith sub (optionalWord (if isSafe then "safe" else "unsafe"))
  if startsGroup .brace (← ahead) then
    let _ ← sub (.block true)
    return ← since start
  let semicolon ← op ";"
  if isSafe then return ← since start
  return .node .foreignFn [noAttributes, visible, sig, semicolon]

/-- A foreign variable. With a value or a qualifier it is kept as plain tokens. -/
def foreignStatic (start : List Token) : Parser Tree := do
  let visible ← visibility
  let qualifier ← optional (startsSomeWord ["unsafe", "safe"]) anyWord
  let keyword ← word "static"
  let mutability ← optionalWord "mut"
  let name ← ident
  let colon ← op ":"
  let type ← sub (.type true)
  let equals ← optionalOp "="
  let _ ← follow equals (sub (.expr true))
  let semicolon ← op ";"
  if !qualifier.isAbsent || !equals.isAbsent then return ← since start
  return .node .foreignStatic
    [noAttributes, visible, keyword, mutability, name, colon, type, semicolon]

/-- A foreign type. With bounds or a value it is kept as plain tokens. -/
def foreignType (start : List Token) : Parser Tree := do
  let visible ← visibility
  let t ← typeItem sub .anywhere
  if !t.colon.isAbsent || !t.equals.isAbsent then return ← since start
  return .node .foreignType
    [noAttributes, visible, t.keyword, t.name, t.generics, t.conditions, t.semicolon]

/-- A member of a foreign module. -/
def foreignItem : Parser Tree := do
  let start ← ahead
  let attributes ← outerAttributes sub
  let here ← ahead
  let (visible, ts) ← match visibility here with
    | some found => pure found
    | none => failure
  let isStatic : Bool := startsWord "static" ts ||
    (startsSomeWord ["unsafe", "safe"] ts && startsWord "static" (skip ts))
  let found ←
    if startsWord "fn" ts || startsSignature true ts then foreignFn sub start
    else if isStatic then foreignStatic sub start
    else if startsWord "type" ts then foreignType sub start
    else do
      require (visible.isAbsent && startsMacro ts)
      memberMacro
  return addAttributes attributes found

end RouteRegistrar.Grammar
