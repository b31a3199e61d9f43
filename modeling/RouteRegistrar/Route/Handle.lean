import RouteRegistrar.Route.Plan

/-!
# Handles

Each group of a plan is bound to a variable of the registration function, its handle. A handle is
built from the name of the handler type; where an earlier group has taken it, the least number that
makes it unique is appended.
-/

namespace RouteRegistrar

open Text

namespace Handle

/-- The characters of a type name that a handle keeps. -/
def keeps (c : Char) : Bool := isAlphanumeric c || c = '_'

/-- The handle of a type name, before it is made unique. -/
def base (typeName : String) : String :=
  "api_" ++ String.ofList (snakeCase (typeName.toList.filter keeps))

/-- The handles that may be tried, at least one more than there are taken ones. -/
def candidates (base : String) (taken : Nat) : List String :=
  base :: (List.range taken).map fun k => base ++ "_" ++ toString (k + 1)

/-- The first candidate that is not taken. -/
def fresh (taken : List String) (base : String) : String :=
  ((candidates base taken.length).find? (!taken.contains ·)).getD base

/-- Handles for a list of type names, given the handles taken so far. -/
def assign (taken : List String) : List String → List String
  | [] => []
  | typeName :: rest =>
    let handle := fresh taken (base typeName)
    handle :: assign (taken ++ [handle]) rest

end Handle

/-- A text as an identifier, if it is one. -/
def identifier (text : String) : Except Failure String :=
  if isIdentifier text.toList then .ok text else .error (.invalidIdentifier text)

namespace Plan

/-- The handles of all groups in order. -/
def handleTexts (plan : Plan) : List String := Handle.assign [] (plan.groups.map (·.typeName))

/-- The handles of all groups, each an identifier. -/
def handles (plan : Plan) : Except Failure (List String) := plan.handleTexts.mapM identifier

end Plan

end RouteRegistrar
