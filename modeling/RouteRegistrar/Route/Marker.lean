import RouteRegistrar.Text.Words

/-!
# Route markers

A fixed set of five markers is recognised: one marks a handler type, four mark its methods with
the verb of a request. A name written in source is compared in any case convention and with or
without the conventional suffix of marker types.
-/

namespace RouteRegistrar

open Text

/-- The verb of a request. -/
inductive Verb where
  | get
  | post
  | delete
  | put
  deriving DecidableEq, Repr

namespace Verb

/-- The verb as requests spell it. -/
def text : Verb → String
  | get => "GET"
  | post => "POST"
  | delete => "DELETE"
  | put => "PUT"

/-- The function that registers a handler for the verb. -/
def routingFunction : Verb → String
  | get => "get"
  | post => "post"
  | delete => "delete"
  | put => "put"

end Verb

/-- A recognised marker. -/
inductive RouteMarker where
  | group
  | get
  | post
  | delete
  | put
  deriving DecidableEq, Repr

namespace RouteMarker

/-- All recognised markers, earlier ones taking precedence. -/
def all : List RouteMarker := [group, get, post, delete, put]

/-- The canonical spelling. -/
def text : RouteMarker → String
  | group => "Group"
  | get => "Get"
  | post => "Post"
  | delete => "Delete"
  | put => "Put"

/-- The verb of a method marker. -/
def verb? : RouteMarker → Option Verb
  | group => none
  | get => some .get
  | post => some .post
  | delete => some .delete
  | put => some .put

/-- The conventional suffix of marker types. -/
def typeSuffix : List Char := "Attribute".toList

/-- Removes the conventional suffix, if it is there. -/
def dropTypeSuffix (name : List Char) : List Char :=
  if typeSuffix.isSuffixOf name then name.take (name.length - typeSuffix.length) else name

/-- The marker that a name denotes. -/
def ofName? (name : String) : Option RouteMarker :=
  let stem := dropTypeSuffix (pascalCase (trim name.toList))
  all.find? fun candidate => candidate.text.toList = stem

/-- Whether a name denotes this marker. -/
def denotedBy (candidate : RouteMarker) (name : String) : Bool :=
  ofName? name = some candidate

/-- The name of the type that defines a marker of the given name. -/
def definitionName (name : String) : String :=
  if typeSuffix.isSuffixOf name.toList then name else name ++ String.ofList typeSuffix

end RouteMarker

/-- A marker of a declaration: its name as written, possibly a path, and the text of its
arguments without the brackets. -/
structure Marker where
  name : String
  arguments : String
  deriving DecidableEq, Repr

namespace Marker

/-- What stands behind the last double colon of a text that has one. -/
def behindLastColons? : List Char → Option (List Char)
  | [] => none
  | [_] => none
  | c :: d :: rest =>
    if c = ':' && d = ':' then (behindLastColons? (d :: rest)).or (some rest)
    else behindLastColons? (d :: rest)

/-- The last segment of the name, without surrounding blanks. -/
def simpleName (marker : Marker) : String :=
  let name := marker.name.toList
  String.ofList (trim ((behindLastColons? name).getD name))

/-- Whether the marker is one of a recognised name. -/
def denotes (marker : Marker) (name : RouteMarker) : Bool :=
  name.denotedBy marker.simpleName

/-- The first candidate that some marker denotes, with the first such marker. An earlier
candidate wins over an earlier marker. -/
def find? (markers : List Marker) (candidates : List RouteMarker) :
    Option (RouteMarker × Marker) :=
  candidates.findSome? fun candidate =>
    (markers.find? (·.denotes candidate)).map (candidate, ·)

end Marker

end RouteRegistrar
