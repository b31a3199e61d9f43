import RouteRegistrar.Route.Expansion

/-!
# Items of a source file

What a scan looks at in a parsed source file: modules, imports, declared names, functions, and
inherent `impl` blocks with their methods. Everything else is passed over.
-/

namespace RouteRegistrar

/-- What follows `use`. -/
inductive UseTree where
  | path (name : String) (tree : UseTree)
  | name (name : String)
  | rename (name newName : String)
  | group (trees : List UseTree)
  | glob
  deriving Repr

/-- A parameter of a method: the name that it binds, if it is just a name, and its type. -/
structure SourceParameter where
  name : Option String
  type : Tree

/-- A method of an `impl` block. -/
structure SourceMethod where
  name : String
  markers : List Marker
  parameters : List SourceParameter
  isAsync : Bool
  hasReceiver : Bool

/-- An inherent `impl` block. -/
structure SourceBlock where
  /-- The names of the path of the type, unless the type is something else than a path. -/
  typeNames : Option (List String)
  markers : List Marker
  methods : List SourceMethod

/-- An item of a source file. -/
inductive SourceItem where
  | block (content : SourceBlock)
  /-- A module with its items in place. `path` is given by an attribute. -/
  | inlineModule (name : String) (path : Option String) (items : List SourceItem)
  /-- A module with a file of its own. `path` is given by an attribute. -/
  | fileModule (name : String) (path : Option String)
  /-- An import. `rooted` says whether it starts at the root of all names. -/
  | use (rooted : Bool) (tree : UseTree)
  | function (name : String)
  /-- A declared type or trait. -/
  | declaration (name : String)
  | other

namespace Tree

/-! ## Attributes -/

/-- The text of a child that is a word. -/
def wordText (tree : Tree) : String := tree.word?.getD ""

/-- The text between the brackets of a group of tokens. -/
def innerText : Tree → String
  | tokens [.group _ content] => Token.textAll content
  | other => other.text

/-- The marker that an attribute is. -/
def marker : Tree → Marker
  | node .singleAttribute [_, _, group _ [node _ (path :: rest)]] =>
    let name := "::".intercalate path.pathNames
    match rest with
    | [] => ⟨name, ""⟩
    | [raw] => ⟨name, raw.innerText⟩
    | _ :: value :: _ => ⟨name, value.text⟩
  | _ => ⟨"", ""⟩

/-- The attributes of an item: those in front of it, then those at the beginning of its body. -/
def allMarkers (outer inner : Tree) : List Marker := (outer.children ++ inner.children).map marker

/-- The string literal that an attribute gives as a path. -/
def pathOf? : Tree → Option String
  | node .singleAttribute
      [_, _, group _ [node .metaNameValue
        [node .path [colons, node .segment [word name, _]], _, node .exprLit [_, literal text]]]] =>
    if colons.isAbsent && name = "path" then Text.Quoted.value? text else none
  | _ => none

/-! ## Imports -/

mutual

/-- What follows `use`. -/
def useTree : Tree → UseTree
  | node .usePath [name, _, inner] => .path name.wordText inner.useTree
  | node .useName [name] => .name name.wordText
  | node .useRename [name, _, newName] => .rename name.wordText newName.wordText
  | node .useGroup [group _ [node _ members]] => .group (useTrees members)
  | _ => .glob

/-- The members of a group of imports. -/
def useTrees : List Tree → List UseTree
  | [] => []
  | op _ :: rest => useTrees rest
  | t :: rest => t.useTree :: useTrees rest

end

/-! ## Methods -/

/-- The name that a pattern binds, if it is just a name. -/
def boundName? : Tree → Option String
  | node .patIdent [_, _, name, mark, _] => if mark.isAbsent then name.word? else none
  | _ => none

/-- A parameter with a pattern and a type. -/
def sourceParameter? : Tree → Option SourceParameter
  | node .patType [_, pattern, _, type] => some ⟨pattern.boundName?, type⟩
  | _ => none

/-- The attributes at the beginning of a block. -/
def blockAttributes : Tree → Tree
  | node .block [group _ (own :: _)] => own
  | _ => absent

/-- A method of an `impl` block. -/
def sourceMethod? : Tree → Option SourceMethod
  | node .implFn
      [attributes, _, _, node .signature [_, asyncness, _, _, _, name, _, inputs, _, _], body] =>
    let list := inputs.children.flatMap items
    some
      { name := name.wordText
        markers := allMarkers attributes body.blockAttributes
        parameters := list.filterMap sourceParameter?
        isAsync := !asyncness.isAbsent
        hasReceiver := list.head?.any (·.isKind .receiver) }
  | _ => none

/-! ## Items -/

/-- The names of the path of a type. -/
def typeNames? : Tree → Option (List String)
  | node .typePath [node .path segments] => some (node .path segments).pathNames
  | _ => none

/-- The name of a data type, a type alias or a trait. -/
def declaredName? : Tree → Option String
  | node .itemStruct (_ :: _ :: _ :: name :: _) => name.word?
  | node .itemEnum (_ :: _ :: _ :: name :: _) => name.word?
  | node .itemUnion (_ :: _ :: _ :: name :: _) => name.word?
  | node .itemType (_ :: _ :: _ :: name :: _) => name.word?
  | node .itemTrait (_ :: _ :: _ :: _ :: _ :: name :: _) => name.word?
  | _ => none

mutual

/-- An item as a scan sees it. -/
def sourceItem : Tree → SourceItem
  | node .itemMod [attributes, _, _, _, name, group _ (_ :: members)] =>
    .inlineModule name.wordText (attributes.children.findSome? pathOf?) (sourceItems members)
  | node .itemMod (attributes :: _ :: _ :: _ :: name :: _) =>
    .fileModule name.wordText (attributes.children.findSome? pathOf?)
  | node .itemUse [_, _, _, colons, tree, _] => .use (!colons.isAbsent) tree.useTree
  | node .itemFn [_, _, node .signature (_ :: _ :: _ :: _ :: _ :: name :: _), _] =>
    .function name.wordText
  | node .itemImpl [attributes, _, _, _, _, implemented, type, _, group _ (own :: members)] =>
    if implemented.isAbsent then
      .block ⟨type.typeNames?, allMarkers attributes own, members.filterMap sourceMethod?⟩
    else .other
  | other =>
    match other.declaredName? with
    | some name => .declaration name
    | none => .other

/-- The items of a module. -/
def sourceItems : List Tree → List SourceItem
  | [] => []
  | t :: rest => t.sourceItem :: sourceItems rest

end

/-- The items of a source file. -/
def fileItems : Tree → List SourceItem
  | node .file (_ :: members) => sourceItems members
  | _ => []

end Tree

/-- The items of a source text, if it can be parsed. -/
def SourceItem.ofText? (text : String) : Option (List SourceItem) :=
  (Grammar.ofSource? text).map Tree.fileItems

end RouteRegistrar
