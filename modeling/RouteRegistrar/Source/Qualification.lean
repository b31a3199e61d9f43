import RouteRegistrar.Route.Handle
import RouteRegistrar.Source.Scope

/-!
# Qualified types

The paths in a type are made absolute, so that the type means the same at any place of the entry
target. `Self` is replaced by the type of the enclosing `impl` block. A function inside the type may
have a receiver that gives no type; its type is `Self` or a reference to it, and is written out.
-/

namespace RouteRegistrar

open Grammar

namespace ItemPath

/-- A name as an identifier. A raw name keeps its marker. -/
def nameWord (name : String) : Except Failure Tree :=
  match name.toList with
  | 'r' :: '#' :: rest =>
    if Token.isNeverRaw rest then .error (.invalidIdentifier name)
    else (identifier (String.ofList rest)).map fun _ => .word name
  | _ => (identifier name).map Tree.word

/-- The segments of a path as seen from the entry target, none of them with arguments. -/
def segmentTrees (path : ItemPath) (libraryName : Option String) : Except Failure (List Tree) :=
  ((path.anchor libraryName).2 ++ path.segments).mapM fun name =>
    (nameWord name).map plainSegment

end ItemPath

namespace Tree

/-- The path with the given segments. -/
def pathOfSegments (rooted : Bool) (segments : List Tree) : Tree :=
  node .path ((if rooted then op "::" else absent) :: segments.intersperse (op "::"))

/-- The arguments of a segment. -/
def segmentArguments : Tree → Tree
  | node .segment [_, arguments] => arguments
  | _ => absent

/-- Gives the last of some segments arguments. -/
def setArguments (arguments : Tree) (segments : List Tree) : List Tree :=
  match segments.reverse with
  | node .segment (name :: _) :: before => before.reverse ++ [node .segment [name, arguments]]
  | _ => segments

end Tree

/-- What the paths of a type are resolved by. -/
structure Qualifier where
  scope : ModuleScope
  /-- What `Self` stands for. -/
  selfType : ItemPath
  libraryName : Option String

namespace Qualifier

/-- How many segments are resolved as a whole: all leading `super`, or else one. -/
def resolvedCount (names : List String) : Nat :=
  if names.head? = some "super" then (names.takeWhile (· = "super")).length else 1

/-- What the beginning of a path stands for. -/
def target? (qualifier : Qualifier) (names : List String) : Option ItemPath :=
  if names.head? = some "Self" then some qualifier.selfType
  else qualifier.scope.resolve? (names.take (resolvedCount names))

/-- Makes a path absolute, unless it starts at the root of all names or the module does not know its
beginning. The arguments of the last resolved segment stay with it. -/
def qualifyPath (qualifier : Qualifier) (path : Tree) : Except Failure Tree :=
  let names := path.pathNames
  match path.children.head?, qualifier.target? names with
  | some (.node .absent _), some found => do
    let (resolved, rest) := (segments path).splitAt (resolvedCount names)
    let beginning ← found.segmentTrees qualifier.libraryName
    let arguments := (resolved.getLast?.map Tree.segmentArguments).getD .absent
    return Tree.pathOfSegments (found.anchor qualifier.libraryName).1
      (Tree.setArguments arguments beginning ++ rest)
  | _, _ => .ok path

/-- The type of a receiver that gives none: `Self` behind the reference of the receiver. -/
def receiverType (selfType reference name mutability : Tree) : Tree :=
  if reference.isAbsent then selfType
  else .node .typeReference [reference, name, mutability, selfType]

/-- Makes the path of a type absolute. -/
def step (qualifier : Qualifier) (kind : Kind) (children : List Tree) : Except Failure Tree :=
  match kind, children with
  | .receiver, [own, reference, name, mutability, self, .node .absent _, _] => do
    let selfType := Tree.node .typePath [← qualifier.qualifyPath (plainPath (.word "Self"))]
    return .node .receiver [own, reference, name, mutability, self, .op ":",
      receiverType selfType reference name mutability]
  | .typePath, [.node .path segments] => do
    return .node .typePath [← qualifier.qualifyPath (.node .path segments)]
  | _, _ => .ok (.node kind children)

/-- Makes all paths of a type absolute, inner ones first. -/
def qualify (qualifier : Qualifier) (type : Tree) : Except Failure Tree :=
  type.rewrite qualifier.step

end Qualifier

end RouteRegistrar
