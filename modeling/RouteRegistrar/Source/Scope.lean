import RouteRegistrar.Source.Item

/-!
# Names in a module

Names are resolved as a reader of one module would resolve them: through its imports and the items
it declares. Everything else stays as written. Imports are read in order, so an import may use the
names of those in front of it, and a later import of the same name wins.
-/

namespace RouteRegistrar

/-! ## Paths of items -/

/-- A target of a package. -/
inductive Target where
  | library
  | entry
  deriving DecidableEq, Repr

/-- Where the path of an item starts. -/
inductive PathRoot where
  /-- The root module of a target. -/
  | target (target : Target)
  /-- The root of all names. -/
  | everything
  deriving DecidableEq, Repr

/-- The full path of an item. -/
structure ItemPath where
  root : PathRoot
  segments : List String
  deriving DecidableEq, Repr

namespace ItemPath

/-- The path of the enclosing module. -/
def parent (path : ItemPath) : ItemPath := { path with segments := path.segments.dropLast }

/-- A path that goes on. -/
def append (path : ItemPath) (segments : List String) : ItemPath :=
  { path with segments := path.segments ++ segments }

/-- The beginning of a path as seen from the entry target, and whether two colons stand in front.
The library is named by its crate name, if it has one. -/
def anchor (path : ItemPath) (libraryName : Option String) : Bool × List String :=
  match path.root, libraryName with
  | .target .library, some name => (true, [name])
  | .target _, _ => (false, ["crate"])
  | .everything, _ => (true, [])

/-- The text of a path as seen from the entry target. -/
def text (path : ItemPath) (libraryName : Option String) : String :=
  let (rooted, beginning) := path.anchor libraryName
  (if rooted then "::" else "") ++ "::".intercalate (beginning ++ path.segments)

end ItemPath

/-! ## Scopes -/

/-- The names that are visible in a module. The newest import comes first. -/
structure ModuleScope where
  path : ItemPath
  imports : List (String × ItemPath)
  declared : List String

namespace ModuleScope

/-- What an imported name stands for. -/
def imported? (scope : ModuleScope) (name : String) : Option ItemPath :=
  (scope.imports.find? (·.1 = name)).map (·.2)

/-- The enclosing module of `path`, and of its enclosing module for each further `super`. -/
def ascend (path : ItemPath) : List String → ItemPath × List String
  | [] => (path, [])
  | name :: rest => if name = "super" then ascend path.parent rest else (path, name :: rest)

/-- The full path of a path written in the module. An empty first name stands for two colons in
front. A name that is unknown starts at the root of all names. -/
def absolute? (scope : ModuleScope) : List String → Option ItemPath
  | [] => none
  | first :: rest =>
    if first = "" then some ⟨.everything, rest⟩
    else if first = "crate" then some ⟨scope.path.root, rest⟩
    else if first = "self" then some (scope.path.append rest)
    else if first = "super" then
      let (base, remaining) := ascend scope.path.parent rest
      some (base.append remaining)
    else if first = "Self" then none
    else
      match scope.imported? first with
      | some path => some (path.append rest)
      | none =>
        if scope.declared.contains first then some (scope.path.append (first :: rest))
        else some ⟨.everything, first :: rest⟩

/-- Adds an import, if its path can be made absolute. -/
def addImport (scope : ModuleScope) (name : Option String) (path : List String) : ModuleScope :=
  match name, scope.absolute? path with
  | some name, some found => { scope with imports := (name, found) :: scope.imports }
  | _, _ => scope

mutual

/-- Adds the imports of a tree. `front` holds the names in front of it. -/
def addImports (scope : ModuleScope) (front : List String) : UseTree → ModuleScope
  | .path name tree => addImports scope (front ++ [name]) tree
  | .name name =>
    if name = "self" then scope.addImport front.getLast? front
    else scope.addImport (some name) (front ++ [name])
  | .rename name newName =>
    scope.addImport (some newName) (if name = "self" then front else front ++ [name])
  | .group trees => addAllImports scope front trees
  | .glob => scope

/-- Adds the imports of several trees in order. -/
def addAllImports (scope : ModuleScope) (front : List String) : List UseTree → ModuleScope
  | [] => scope
  | tree :: rest => addAllImports (addImports scope front tree) front rest

end

/-- The name that an item declares in its module. -/
def declaredName? : SourceItem → Option String
  | .declaration name => some name
  | .inlineModule name _ _ => some name
  | .fileModule name _ => some name
  | _ => none

/-- Adds the imports of an item. -/
def addItem (scope : ModuleScope) : SourceItem → ModuleScope
  | .use rooted tree => scope.addImports (if rooted then [""] else []) tree
  | _ => scope

/-- The scope of a module with the given items. -/
def ofItems (path : ItemPath) (items : List SourceItem) : ModuleScope :=
  items.foldl addItem ⟨path, [], items.filterMap declaredName?⟩

/-- Whether the module knows what a name stands for. -/
def knows (scope : ModuleScope) (name : String) : Bool :=
  name = "crate" || name = "self" || name = "super" || (scope.imported? name).isSome ||
    scope.declared.contains name

/-- The full path of a path used in a signature, if the module knows its first name. -/
def resolve? (scope : ModuleScope) (names : List String) : Option ItemPath :=
  match names with
  | [] => none
  | first :: _ => if scope.knows first then scope.absolute? names else none

/-- What the type of an `impl` block stands for, given the names of its path and the last of them. A
type that the module does not know counts as one of its own. -/
def selfPath (scope : ModuleScope) (names : List String) (name : String) : ItemPath :=
  (scope.resolve? names).getD (scope.path.append [name])

end ModuleScope

end RouteRegistrar
