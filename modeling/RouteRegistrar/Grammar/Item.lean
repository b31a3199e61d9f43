import RouteRegistrar.Grammar.Signature

/-!
# Items

Some accepted forms have no structure of their own and are kept as plain tokens: functions without a
body, constants with parameters, statics without a type, visible or constant `impl` blocks, and
macros of the second kind.
-/

namespace RouteRegistrar.Grammar

open RouteRegistrar.Parser RouteRegistrar.Token

variable (sub : Goal → Parser Tree)

/-! ## Imports -/

/-- The name that an import is given. -/
def rename : Parser Tree := do if startsWord "_" (← ahead) then anyWord else ident

/-- The members of a group of imports. Absent if one of them starts at the root of all names. -/
def useGroup (root : Bool) : Parser Tree := do
  let content ← within .brace do
    return [← separated "," do
      let colons ← if root then optionalOp "::" else pure .absent
      let found ← sub (.useTree (root && colons.isAbsent))
      return if colons.isAbsent then found else .absent]
  if content.children.any fun list => list.items.any (·.isAbsent) then return .absent
  return .node .useGroup [content]

/-- What follows `use`. Absent if a group in it starts at the root of all names. -/
def useTree (root : Bool) : Parser Tree := do
  let ts ← ahead
  if startsOp "*" ts then return .node .useGlob [← op "*"]
  if startsGroup .brace ts then return ← useGroup sub root
  require (startsIdent ts || startsSomeWord ["self", "super", "crate", "try"] ts)
  let name ← anyWord
  let ts ← ahead
  if startsOp "::" ts then
    let colons ← op "::"
    let inner ← sub (.useTree false)
    if inner.isAbsent then return .absent else return .node .usePath [name, colons, inner]
  if startsWord "as" ts then return .node .useRename [name, ← word "as", ← rename]
  return .node .useName [name]

/-- An import. -/
def itemUse (start : List Token) : Parser Tree := do
  let visible ← visibility
  let keyword ← word "use"
  let colons ← optionalOp "::"
  let tree ← sub (.useTree colons.isAbsent)
  let semicolon ← op ";"
  if tree.isAbsent then return ← since start
  return .node .itemUse [noAttributes, visible, keyword, colons, tree, semicolon]

/-- The name of another crate. -/
def itemExternCrate : Parser Tree := do
  let visible ← visibility
  let foreign ← word "extern"
  let keyword ← word "crate"
  let name ← if startsWord "self" (← ahead) then anyWord else ident
  let renamed ← optionalWord "as"
  let newName ← follow renamed rename
  return .node .itemExternCrate
    [noAttributes, visible, foreign, keyword, name, renamed, newName, ← op ";"]

/-! ## Functions, constants and types -/

/-- The word or low line that names a constant. -/
def constName : Parser Tree := do if startsWord "_" (← ahead) then anyWord else ident

/-- The rest of a function: its signature and body, or plain tokens without a body. -/
def itemFn (start : List Token) : Parser Tree := do
  let visible ← visibility
  let sig ← signature sub
  if startsOp ";" (← ahead) then
    let _ ← op ";"
    return ← since start
  return .node .itemFn [noAttributes, visible, sig, ← sub (.block true)]

/-- A constant behind what may stand in front of it. A constant with parameters or conditions, or
without a value unless that `mayBeOpen`, is kept as plain tokens. -/
def constRest (start : List Token) (kind : Kind) (front : List Tree) (mayBeOpen : Bool) :
    Parser Tree := do
  let keyword ← word "const"
  let name ← constName
  let hasGenerics ← look (startsOp "<")
  let _ ← generics sub
  let colon ← op ":"
  let type ← sub (.type true)
  let equals ← optionalOp "="
  let value ← follow equals (sub (.expr true))
  let hasWhere ← look (startsWord "where")
  let _ ← whereClause sub
  let semicolon ← op ";"
  if hasGenerics || hasWhere || (equals.isAbsent && !mayBeOpen) then return ← since start
  return .node kind (front ++ [keyword, name, colon, type, equals, value, semicolon])

/-- A variable of the program. -/
def itemStatic (start : List Token) : Parser Tree := do
  let visible ← visibility
  let keyword ← word "static"
  let mutability ← optionalWord "mut"
  let name ← ident
  if startsOp "=" (← ahead) then
    let _ ← op "="
    let _ ← sub (.expr true)
    let _ ← op ";"
    return ← since start
  let colon ← op ":"
  let type ← sub (.type true)
  if startsOp ";" (← ahead) then
    let _ ← op ";"
    return ← since start
  let equals ← op "="
  let value ← sub (.expr true)
  return .node .itemStatic
    [noAttributes, visible, keyword, mutability, name, colon, type, equals, value, ← op ";"]

/-- Where the conditions of a type may stand. -/
inductive WherePlace where
  | beforeValue
  | behindValue
  | anywhere
  deriving DecidableEq

/-- A type behind what may stand in front of it. -/
structure TypeItem where
  keyword : Tree
  name : Tree
  generics : Tree
  colon : Tree
  bounds : Tree
  equals : Tree
  value : Tree
  conditions : Tree
  semicolon : Tree

/-- Reads a type with all its optional parts. -/
def typeItem (place : WherePlace) : Parser TypeItem := do
  let keyword ← word "type"
  let name ← ident
  let params ← generics sub
  let colon ← optionalOp ":"
  let stops (ts : List Token) : Bool := startsWord "where" ts || startsSomeOp ["=", ";"] ts
  let bounds ← follow colon (listUntil stops "+" (bound sub false true))
  let hasEarly ← look (startsWord "where")
  let early ← if place = .behindValue then pure Tree.absent else whereClause sub
  let equals ← optionalOp "="
  let value ← follow equals (sub (.type true))
  let tryLate : Bool := place = .behindValue || (place = .anywhere && !hasEarly)
  let late ← if tryLate then whereClause sub else pure Tree.absent
  let semicolon ← op ";"
  return ⟨keyword, name, params, colon, bounds, equals, value,
    if early.isAbsent then late else early, semicolon⟩

/-- A name for a type. -/
def itemType (start : List Token) : Parser Tree := do
  let visible ← visibility
  let t ← typeItem sub .beforeValue
  if t.equals.isAbsent || !t.colon.isAbsent then return ← since start
  return .node .itemType [noAttributes, visible, t.keyword, t.name, t.generics, t.conditions,
    t.equals, t.value, t.semicolon]

/-! ## Data types -/

/-- The type of a field without a name of its own, which may list fields itself. -/
def fieldType (fields : Parser Tree) (unnamed : Bool) : Parser Tree := do
  let ts ← ahead
  let listsFields : Bool := unnamed &&
    (startsWord "struct" ts || (startsWord "union" ts && startsGroup .brace (skip ts)))
  if !listsFields then return ← sub (.type true)
  verbatim do
    let _ ← anyWord
    let _ ← fields

/-- A field with a name. -/
def namedField (fields : Parser Tree) : Parser Tree := do
  let attributes := Tree.node .attributes (← outerAttributes sub)
  let visible ← visibility
  let unnamed ← look (startsWord "_")
  let name ← constName
  let colon ← op ":"
  return .node .field [attributes, visible, name, colon, ← fieldType sub fields unnamed]

/-- Fields with names. Fields that list fields themselves may nest as deep as `depth`. -/
def fieldsNamed : Nat → Parser Tree
  | 0 => failure
  | depth + 1 => do
    return .node .fieldsNamed
      [← within .brace do return [← separated "," (namedField sub (fieldsNamed depth))]]

/-- A list of named fields, nested at most as deep as there are tokens. -/
def namedFields : Parser Tree := do fieldsNamed sub (countAll (← ahead) + 1)

/-- Fields without names. -/
def unnamedFields : Parser Tree := do
  return .node .fieldsUnnamed [← within .parenthesis do
    return [← separated "," do
      let attributes := Tree.node .attributes (← outerAttributes sub)
      let visible ← visibility
      return .node .field [attributes, visible, .absent, .absent, ← sub (.type true)]]]

/-- A struct. Conditions stand in front of named fields and behind unnamed ones. -/
def itemStruct : Parser Tree := do
  let visible ← visibility
  let keyword ← word "struct"
  let name ← ident
  let params ← generics sub
  let hasConditions ← look (startsWord "where")
  let conditions ← whereClause sub
  let front := [noAttributes, visible, keyword, name, params, conditions]
  let ts ← ahead
  if !hasConditions && startsGroup .parenthesis ts then
    let fields ← unnamedFields sub
    let late ← whereClause sub
    return .node .itemStruct (front ++ [fields, late, ← op ";"])
  if startsGroup .brace ts then
    return .node .itemStruct (front ++ [← namedFields sub, .absent, .absent])
  return .node .itemStruct (front ++ [.absent, .absent, ← op ";"])

/-- A variant of an enumeration. Its visibility is left out. -/
def enumVariant : Parser Tree := do
  let attributes := Tree.node .attributes (← outerAttributes sub)
  let _ ← visibility
  let name ← ident
  let ts ← ahead
  let fields ← if startsGroup .brace ts then namedFields sub
    else optional (startsGroup .parenthesis) (unnamedFields sub)
  let equals ← optionalOp "="
  return .node .enumVariant [attributes, name, fields, equals, ← follow equals (sub (.expr true))]

/-- An enumeration. -/
def itemEnum : Parser Tree := do
  let visible ← visibility
  let keyword ← word "enum"
  let name ← ident
  let params ← generics sub
  let conditions ← whereClause sub
  return .node .itemEnum [noAttributes, visible, keyword, name, params, conditions,
    ← within .brace do return [← separated "," (enumVariant sub)]]

/-- A union. -/
def itemUnion : Parser Tree := do
  let visible ← visibility
  let keyword ← word "union"
  let name ← ident
  let params ← generics sub
  let conditions ← whereClause sub
  return .node .itemUnion
    [noAttributes, visible, keyword, name, params, conditions, ← namedFields sub]

/-! ## Modules, traits and implementations -/

/-- Items in braces, behind the attributes of what encloses them. -/
def itemsInBraces (member : Parser Tree) : Parser Tree :=
  within .brace do
    let attributes ← innerAttributes sub
    return attributes :: (← all member)

/-- A module, given by its items or by a file of its own. -/
def itemMod : Parser Tree := do
  let visible ← visibility
  let safety ← optionalWord "unsafe"
  let keyword ← word "mod"
  let name ← if startsWord "try" (← ahead) then anyWord else ident
  let front := [noAttributes, visible, safety, keyword, name]
  if startsOp ";" (← ahead) then return .node .itemMod (front ++ [← op ";"])
  return .node .itemMod (front ++ [← itemsInBraces sub (sub .item)])

/-- Bounds with a plus between two of them, up to where `stop` holds. -/
def boundsUntil (mayBeConst : Bool) (stop : List Token → Bool) : Parser Tree := do
  let found ← listUntil stop "+" (bound sub false mayBeConst)
  require (stop (← ahead))
  return found

/-- A trait behind its name and parameters. -/
def traitRest (front : List Tree) : Parser Tree := do
  let colon ← optionalOp ":"
  let bounds ← follow colon
    (boundsUntil sub true fun ts => startsWord "where" ts || startsGroup .brace ts)
  let bare : Bool := bounds.children.isEmpty
  let conditions ← whereClause sub
  return .node .itemTrait (front ++ [if bare then .absent else colon,
    if bare then .absent else bounds, conditions, ← itemsInBraces sub (sub .traitItem)])

/-- A trait, or a name for a sum of traits. -/
def itemTrait (mayBeAlias : Bool) : Parser Tree := do
  let visible ← visibility
  let safety ← optionalWord "unsafe"
  let auto ← optionalWord "auto"
  let keyword ← word "trait"
  let name ← ident
  let params ← generics sub
  if mayBeAlias && startsOp "=" (← ahead) then
    let equals ← op "="
    let bounds ← boundsUntil sub false fun ts => startsWord "where" ts || startsOp ";" ts
    let conditions ← whereClause sub
    return .node .itemTraitAlias
      [noAttributes, visible, keyword, name, params, equals, bounds, conditions, ← op ";"]
  traitRest sub [noAttributes, visible, safety, auto, keyword, name, params]

/-- An `impl` block. -/
def itemImpl (start : List Token) : Parser Tree := do
  let visible ← visibility
  let defaultness ← optionalWord "default"
  let safety ← optionalWord "unsafe"
  let keyword ← word "impl"
  let params ← if startsGenerics (← ahead) then generics sub else pure Tree.absent
  let ts ← ahead
  let isConst : Bool := startsWord "const" ts ||
    (startsOp "?" ts && startsWord "const" (skip ts))
  if isConst then
    let _ ← optionalOp "?"
    let _ ← word "const"
  let ts ← ahead
  let negation ← if startsOp "!" ts && !startsGroup .brace (skip ts) then op "!" else pure .absent
  let first ← sub (.type true)
  let isOfTrait ← look (startsWord "for")
  require (isOfTrait || negation.isAbsent)
  let preposition ← optionalWord "for"
  let type ← if isOfTrait then sub (.type true) else pure first
  let traitName : Tree := match isOfTrait, first with
    | true, .node .typePath [.node .path segments] => .node .path segments
    | _, _ => .absent
  let conditions ← whereClause sub
  let body ← itemsInBraces sub (sub .implItem)
  if !visible.isAbsent || isConst || (isOfTrait && traitName.isAbsent) then return ← since start
  let implemented : Tree := if isOfTrait then .node .implTrait [negation, traitName, preposition]
    else .absent
  return .node .itemImpl
    [noAttributes, defaultness, safety, keyword, params, implemented, type, conditions, body]

/-- Items of another language. -/
def itemForeignMod : Parser Tree := do
  let safety ← optionalWord "unsafe"
  let convention ← abi
  return .node .itemForeignMod
    [noAttributes, safety, convention, ← itemsInBraces sub (sub .foreignItem)]

/-! ## Macros -/

/-- The semicolon behind a macro call, which follows all brackets but braces. -/
def macroEnd (braces : Bool) : Parser Tree := if braces then pure .absent else op ";"

/-- The call of a macro as an item, possibly with a name that it defines. -/
def itemMacro : Parser Tree := do
  let path ← modulePath
  let bang ← op "!"
  let ts ← ahead
  let name ← if startsWord "try" ts then anyWord else optional startsIdent ident
  let braces ← look (startsGroup .brace)
  let body ← rawGroup
  return .node .itemMacro [noAttributes, path, bang, name, body, ← macroEnd braces]

/-- A macro of the second kind. -/
def macroDefinition (start : List Token) : Parser Tree := do
  let _ ← visibility
  let _ ← word "macro"
  let _ ← ident
  let _ ← optional (startsGroup .parenthesis) rawGroup
  require (startsGroup .brace (← ahead))
  let _ ← rawGroup
  since start

/-! ## Items -/

/-- What begins with `extern` but is no function. -/
def itemExtern (behind : List Token) : Parser Tree := do
  if startsWord "crate" behind then return ← itemExternCrate
  let body := if startsString behind then skip behind else behind
  require (startsGroup .brace body)
  itemForeignMod sub

/-- What begins with `unsafe` but is no function. -/
def itemUnsafe (start behind : List Token) : Parser Tree := do
  if startsWord "trait" behind ||
      (startsWord "auto" behind && startsWord "trait" (skip behind)) then
    itemTrait sub false
  else if startsWord "impl" behind then itemImpl sub start
  else if startsWord "extern" behind then itemForeignMod sub
  else
    require (startsWord "mod" behind)
    itemMod sub

/-- An item behind its attributes. `start` is where the attributes began. -/
def itemRest (start : List Token) (attributes : List Tree) : Parser Tree := do
  let here ← ahead
  let (visible, ts) ← match visibility here with
    | some found => pure found
    | none => failure
  let second := skip ts
  let found ←
    if startsWord "fn" ts || startsSignature false ts then itemFn sub start
    else if startsWord "extern" ts then itemExtern sub second
    else if startsWord "use" ts then itemUse sub start
    else if startsWord "static" ts then itemStatic sub start
    else if startsWord "const" ts then do
      let visible ← visibility
      constRest sub start .itemConst [noAttributes, visible] false
    else if startsWord "unsafe" ts then itemUnsafe sub start second
    else if startsWord "mod" ts then itemMod sub
    else if startsWord "type" ts then itemType sub start
    else if startsWord "struct" ts then itemStruct sub
    else if startsWord "enum" ts then itemEnum sub
    else if startsWord "union" ts && startsIdent second then itemUnion sub
    else if startsWord "trait" ts then itemTrait sub true
    else if startsWord "auto" ts && startsWord "trait" second then itemTrait sub false
    else if startsWord "impl" ts || (startsWord "default" ts && !startsOp "!" second) then
      itemImpl sub start
    else if startsWord "macro" ts then macroDefinition start
    else do
      require (visible.isAbsent && (startsIdent ts || startsOp "::" ts ||
        startsSomeWord ["self", "super", "crate"] ts))
      itemMacro
  return addAttributes attributes found

/-- An item with its attributes. -/
def item : Parser Tree := do
  let start ← ahead
  let attributes ← outerAttributes sub
  itemRest sub start attributes

end RouteRegistrar.Grammar
