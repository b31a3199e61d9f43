import RouteRegistrar.Grammar.Source
import RouteRegistrar.Route.Marker

/-!
# Marking an `impl` block as a group

A group marker stands on an inherent `impl` block. Expanding it removes the verb markers of the
methods and keeps everything else. Which attributes are verb markers is decided by the last name of
their path, apart from route generation, which reads the same attributes.
-/

namespace RouteRegistrar

open Text

/-- The canonical spellings of the markers that an expansion removes. -/
def expandedMarkers : List String := ["Get", "Post", "Delete", "Put"]

namespace Tree

/-- The path of an attribute. -/
def attributePath? : Tree → Option Tree
  | node .singleAttribute [_, _, group _ [node _ (path :: _)]] => some path
  | _ => none

/-- The names of the segments of a path. -/
def pathNames (path : Tree) : List String :=
  (Grammar.segments path).filterMap fun segment => segment.children.head?.bind word?

/-- Whether an attribute gives a method a verb: the last name of its path, in any case convention
and with or without the suffix of marker types, is one of those that are removed. -/
def isVerbAttribute (found : Tree) : Bool :=
  (found.attributePath?.bind (·.pathNames.getLast?)).any fun name =>
    let stem := RouteMarker.dropTypeSuffix (pascalCase name.toList)
    expandedMarkers.any (·.toList = stem)

/-- Removes the verb attributes of a list. -/
def withoutVerbs : Tree → Tree
  | node .attributes attributes => node .attributes (attributes.filter (!·.isVerbAttribute))
  | other => other

/-- Removes the verb attributes of a method, in front of it and at the beginning of its body. -/
def withoutVerbMarkers : Tree → Tree
  | node .implFn
      [attributes, visible, defaultness, sig, node .block [group .brace (own :: body)]] =>
    node .implFn [attributes.withoutVerbs, visible, defaultness, sig,
      node .block [group .brace (own.withoutVerbs :: body)]]
  | other => other

end Tree

/-- Why an item cannot be marked as a group. -/
inductive ExpansionFault where
  | implementsTrait
  | noBlock
  deriving DecidableEq, Repr

/-- The wording of an expansion fault. -/
def ExpansionFault.message : ExpansionFault → String
  | .implementsTrait => "Only inherent impl blocks can be marked as a route group!"
  | .noBlock => "Only impl blocks can be marked as a route group!"

/-- Expands a group marker on an item. -/
def Tree.expandGroup : Tree → Except ExpansionFault Tree
  | node .itemImpl
      [attributes, defaultness, safety, keyword, params, implemented, type, conditions,
        group .brace (own :: members)] =>
    if implemented.isAbsent then
      .ok (node .itemImpl [attributes, defaultness, safety, keyword, params, implemented, type,
        conditions, group .brace (own :: members.map withoutVerbMarkers)])
    else .error .implementsTrait
  | _ => .error .noBlock

end RouteRegistrar
