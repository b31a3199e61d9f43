import RouteRegistrar.Style.Expression

/-!
# Printed items

Every item ends its line. What encloses other parts is a box around its head and its parts, with the
closing brace behind the box.
-/

namespace RouteRegistrar.Style

open Document

variable (sub : Printer)

/-! ## Visibility and signatures -/

/-- Whether a path is one of the words that need no further word in a visibility. -/
def isPlainPlace : Tree → Bool
  | .node .path [colons, .node .segment [.word name, _]] =>
    colons.isAbsent && ["self", "super", "crate"].contains name
  | _ => false

/-- A visibility. -/
def visibility : Tree → Document
  | .node .visibility [_, .group _ content] =>
    match content.getLast? with
    | some place =>
      cat ["pub(", onlyIf (!isPlainPlace place) "in ", path sub .bare place, ") "]
    | none => empty
  | .node .visibility _ => "pub "
  | _ => empty

/-- A parameter of a function that is no pattern with a type. -/
def parameter : Tree → Document
  | .node .receiver [own, reference, name, mutability, _, _, type] =>
    cat [attributes sub own, leaf reference, modifier name, modifier mutability, "self",
      ifPresent type [": ", sub .plain type]]
  | .node .variadic [own, bound, _, _, _] =>
    cat [attributes sub own, ifPresent bound [sub .plain bound, ": "], "..."]
  | _ => empty

/-- A signature without its conditions. -/
def signature : Tree → Document
  | .node .signature [constness, asyncness, safety, convention, _, name, params, .group _ [inputs],
      output, _] =>
    cat [modifier constness, modifier asyncness, modifier safety, abi convention, "fn ", leaf name,
      generics sub params, "(", neverBreak,
      consistent 0 [outdented (zeroBreak :: parameterList sub inputs.items)], ")",
      consistent (-step) [returnType sub output]]
  | _ => empty

/-- The conditions of a signature. -/
def signatureConditions (tree : Tree) : Tree := tree.children.getLast?.getD .absent

/-! ## Items with a body -/

/-- A head and what stands in braces behind it. -/
def withBody (own : Tree) (head : List Document) (body : Document) : Document :=
  cat [attributes sub own, consistent step [cat head, "\x7b", body], "\x7d", hardBreak]

/-- The items in braces behind a head. -/
def itemLines : Tree → Document
  | .group _ (inner :: items) => linesInBraces sub inner items
  | _ => empty

/-- Fields or variants, each on a line of its own with a comma. -/
def commaLines (items : List Tree) : Document :=
  outdented [hardBreakIfMore, cat (items.flatMap fun item => [sub .plain item, ",", hardBreak])]

/-- A head that ends in a semicolon or in an item of its own form. -/
def withoutBody (own : Tree) (indent : Int) (parts : List Document) : Document :=
  cat [attributes sub own, consistent indent parts, hardBreak]

/-- A function, with or without a body. -/
def function (own : Tree) (front : List Document) (sig body : Tree) : Document :=
  let head := front ++ [signature sub sig]
  if body.isKind .block then
    withBody sub own (head ++ [whereBody sub (signatureConditions sig)]) (blockLines sub body)
  else withoutBody sub own step (head ++ [whereEnd sub (signatureConditions sig)])

/-! ## Constants and types -/

/-- A constant or a variable of the program, possibly without a value. -/
def constant (own : Tree) (front : List Document) (name type value : Tree) : Document :=
  withoutBody sub own 0 (front ++ [leaf name, ": ", sub .plain type,
    ifPresent value [" = ", neverBreak, sub .plain value], ";"])

/-- The value of a name for a type. -/
def typeValue (value : Tree) : Document := cat [neverBreak, inconsistent (-step) [sub .plain value]]

/-! ## Imports -/

mutual

/-- Whether an import ends in a group. -/
def endsInGroup : Tree → Bool
  | .node kind children =>
    match kind with
    | .useGroup => true
    | .usePath => lastEndsInGroup children
    | _ => false
  | _ => false

/-- The same for the last part of an import. -/
def lastEndsInGroup : List Tree → Bool
  | [] => false
  | [last] => endsInGroup last
  | _ :: rest => lastEndsInGroup rest

end

/-- Whether a member of a group of imports is the module itself, possibly renamed. -/
def isModuleItself : Tree → Bool
  | .node .useName [.word name] => name = "self"
  | .node .useRename (.word name :: _) => name = "self"
  | _ => false

/-- The only member of a group that needs no braces. -/
def onlyMember? (members : Tree) : Option Tree :=
  match members.items with
  | [only] => if isModuleItself only then none else some only
  | _ => none

/-- The members of a group of imports. One that ends in a group ends its line. -/
def useItems : List Tree → List Document
  | [] => []
  | [item] => [sub .plain item]
  | item :: next :: rest =>
    sub .plain item :: "," :: (if endsInGroup item then hardBreak else space) ::
      useItems (next :: rest)

/-- What is imported. A group with a single member is written without braces. -/
def useTree : Tree → Document
  | .node .usePath [name, _, inner] => cat [leaf name, "::", sub .plain inner]
  | .node .useName [name] => leaf name
  | .node .useRename [name, _, newName] => cat [leaf name, " as ", leaf newName]
  | .node .useGlob _ => "*"
  | .node .useGroup [.group _ [members]] =>
    match onlyMember? members with
    | some only => sub .plain only
    | none =>
      cat ["\x7b", consistent step [outdented [zeroBreak,
        inconsistent 0 (useItems sub members.items), comma true]], "\x7d"]
  | _ => empty

/-- Items that name things of other modules or crates. -/
def importItem : Tree → Document
  | .node .itemUse [own, visible, _, colons, tree, _] =>
    cat [attributes sub own, visibility sub visible, "use ", leaf colons, sub .plain tree, ";",
      hardBreak]
  | .node .itemExternCrate [own, visible, _, _, name, _, newName, _] =>
    cat [attributes sub own, visibility sub visible, "extern crate ", leaf name,
      ifPresent newName [" as ", leaf newName], ";", hardBreak]
  | tree => useTree sub tree

/-! ## Data types -/

/-- Fields without names, without a box of their own. -/
def unnamedFields (fields : Tree) : Document := cat ["(", list sub fields.items, ")"]

/-- Parts of data types. -/
def dataPart : Tree → Document
  | .node .field [own, visible, name, _, type] =>
    cat [attributes sub own, visibility sub visible, ifPresent name [leaf name, ": "],
      sub .plain type]
  | .node .enumVariant [own, name, fields, _, value] =>
    let content : Document := match fields with
      | .node .fieldsNamed [.group _ [list]] =>
        cat [" ", "\x7b", consistent step [outdented
          (space :: delimited commaOrSpace (list.items.map (sub .plain)))], "\x7d"]
      | .node .fieldsUnnamed [.group _ [list]] => consistent step [unnamedFields sub list]
      | _ => empty
    cat [attributes sub own, leaf name, content, ifPresent value [" = ", sub .plain value]]
  | _ => empty

/-- Data types. -/
def dataItem : Tree → Document
  | .node .itemStruct [own, visible, _, name, params, early, fields, late, _] =>
    let head := [visibility sub visible, "struct ", leaf name, generics sub params]
    match fields with
    | .node .fieldsNamed [.group _ [list]] =>
      withBody sub own (head ++ [whereBody sub early]) (commaLines sub list.items)
    | .node .fieldsUnnamed [.group _ [list]] =>
      withoutBody sub own step (head ++ [unnamedFields sub list, whereEnd sub late])
    | _ => withoutBody sub own step (head ++ [whereEnd sub early])
  | .node .itemEnum [own, visible, _, name, params, conditions, .group _ [variants]] =>
    withBody sub own [visibility sub visible, "enum ", leaf name, generics sub params,
      whereBody sub conditions] (commaLines sub variants.items)
  | .node .itemUnion [own, visible, _, name, params, conditions,
      .node .fieldsNamed [.group _ [list]]] =>
    withBody sub own [visibility sub visible, "union ", leaf name, generics sub params,
      whereBody sub conditions] (commaLines sub list.items)
  | tree => dataPart sub tree

/-! ## Modules, traits and implementations -/

/-- What an `impl` block is for. -/
def implHead (defaultness safety params implemented type : Tree) : Document :=
  let name : Document := match implemented with
    | .node .implTrait [negation, path, _] =>
      cat [leaf negation, Style.path sub .inType path, space, "for "]
    | _ => empty
  inconsistent (-step) [
    consistent step [modifier defaultness, modifier safety, "impl", generics sub params], " ", name,
    sub .plain type]

/-- Items that enclose others. -/
def enclosingItem : Tree → Document
  | .node .itemMod [own, visible, safety, _, name, body] =>
    let head := [visibility sub visible, modifier safety, "mod ", leaf name]
    match body with
    | .group _ _ => withBody sub own [cat head, " "] (itemLines sub body)
    | _ => withoutBody sub own step [cat head, ";"]
  | .node .itemForeignMod [own, safety, convention, body] =>
    withBody sub own [modifier safety, abi convention] (itemLines sub body)
  | .node .itemImpl [own, defaultness, safety, _, params, implemented, type, conditions, body] =>
    withBody sub own [implHead sub defaultness safety params implemented type,
      whereBody sub conditions] (itemLines sub body)
  | .node .itemTrait [own, visible, safety, auto, _, name, params, _, required, conditions, body] =>
    withBody sub own [visibility sub visible, modifier safety, modifier auto, "trait ", leaf name,
      generics sub params, sequence sub ": " " + " required.items, whereBody sub conditions]
      (itemLines sub body)
  | .node .itemTraitAlias [own, visible, _, name, params, _, required, conditions, _] =>
    withoutBody sub own step [visibility sub visible, "trait ", leaf name, generics sub params,
      " = ", neverBreak, sequence sub empty breakingPlus required.items, whereEnd sub conditions]
  | _ => empty

/-! ## Members and plain items -/

/-- Functions, constants and variables. -/
def valueItem : Tree → Document
  | .node .itemFn [own, visible, sig, body] => function sub own [visibility sub visible] sig body
  | .node .implFn [own, visible, defaultness, sig, body] =>
    function sub own [visibility sub visible, modifier defaultness] sig body
  | .node .traitFn [own, sig, body] => function sub own [] sig body
  | .node .foreignFn [own, visible, sig, body] => function sub own [visibility sub visible] sig body
  | .node .itemConst [own, visible, _, name, _, type, _, value, _] =>
    constant sub own [visibility sub visible, "const "] name type value
  | .node .implConst [own, visible, defaultness, _, name, _, type, _, value, _] =>
    constant sub own [visibility sub visible, modifier defaultness, "const "] name type value
  | .node .traitConst [own, _, name, _, type, _, value, _] =>
    constant sub own ["const "] name type value
  | .node .itemStatic [own, visible, _, mutability, name, _, type, _, value, _] =>
    constant sub own [visibility sub visible, "static ", modifier mutability] name type value
  | .node .foreignStatic [own, visible, _, mutability, name, _, type, _] =>
    constant sub own [visibility sub visible, "static ", modifier mutability] name type .absent
  | tree => parameter sub tree

/-- Names for types. -/
def typeItem : Tree → Document
  | .node .itemType [own, visible, _, name, params, conditions, _, value, _] =>
    withoutBody sub own step [visibility sub visible, "type ", leaf name, generics sub params,
      whereInline sub conditions, "= ", typeValue sub value, ";"]
  | .node .implType [own, visible, defaultness, _, name, params, _, value, conditions, _] =>
    withoutBody sub own step [visibility sub visible, modifier defaultness, "type ", leaf name,
      generics sub params, " = ", typeValue sub value, whereInlineEnd sub conditions]
  | .node .traitType [own, _, name, params, _, required, _, value, conditions, _] =>
    withoutBody sub own step ["type ", leaf name, generics sub params, bounds sub required.items,
      ifPresent value [" = ", typeValue sub value], whereInlineEnd sub conditions]
  | .node .foreignType [own, visible, _, name, params, _, _] =>
    withoutBody sub own 0 [visibility sub visible, "type ", leaf name, generics sub params, ";"]
  | tree => valueItem sub tree

/-- Calls of macros in place of items. -/
def macroItems : Tree → Document
  | .node .itemMacro [own, name, _, defined, content, _] =>
    cat [attributes sub own, macroItem sub name defined content, hardBreak]
  | .node .memberMacro [own, call, _] =>
    cat [attributes sub own, macroCall sub call, onlyIf (!Grammar.hasBraces call) ";", hardBreak]
  | tree => typeItem sub tree

end RouteRegistrar.Style
