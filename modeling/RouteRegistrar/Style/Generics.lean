import RouteRegistrar.Style.Attribute

/-!
# Printed bounds, generic parameters and conditions
-/

namespace RouteRegistrar.Style

open Document

variable (sub : Printer)

/-! ## Bounds -/

/-- Items with something in front of the first one and something between two. Nothing for no
items. -/
def sequence (first between : Document) (items : List Tree) : Document :=
  match items with
  | [] => empty
  | item :: rest =>
    cat (first :: sub .plain item :: rest.flatMap fun next => [between, sub .plain next])

/-- A plus at the beginning of a line or behind a space. -/
def breakingPlus : Document := cat [space, "+ "]

/-- Bounds behind a colon. -/
def bounds (items : List Tree) : Document := sequence sub ": " breakingPlus items

/-- A trait. -/
def traitBound : Tree → Document
  | .node .traitBound [relaxed, lifetimes, name] =>
    cat [sub .plain lifetimes, leaf relaxed, path sub .inType name]
  | _ => empty

/-- A trait in parentheses. -/
def parenBound : Tree → Document
  | .node .parenBound [.group _ [inner]] => cat ["(", sub .plain inner, ")"]
  | _ => empty

/-- Parameters that a type captures. -/
def preciseCapture : Tree → Document
  | .node .preciseCapture [_, _, captured, _] =>
    cat ["use<", sequence sub empty ", " captured.items, ">"]
  | _ => empty

/-- An item of a trait with its value or its bounds, among generic arguments. -/
def associated : Tree → Document
  | .node .constraint [name, arguments, _, required] =>
    cat [leaf name, angleArguments sub .inType arguments,
      inconsistent step [bounds sub required.items]]
  | .node _ [name, arguments, _, value] =>
    cat [leaf name, angleArguments sub .inType arguments, " = ", sub .plain value]
  | _ => empty

/-! ## Parameters -/

/-- Parameters bound in front of a trait or a function. -/
def boundLifetimes : Tree → Document
  | .node .boundLifetimes [_, _, parameters, _] =>
    cat ["for<", sequence sub empty ", " parameters.items, "> "]
  | _ => empty

/-- A generic parameter. -/
def genericParam : Tree → Document
  | .node .lifetimeParam [own, name, _, outlived] =>
    cat [attributes sub own, leaf name, sequence sub ": " " + " outlived.items]
  | .node .typeParam [own, name, _, required, _, default] =>
    cat [attributes sub own, leaf name, inconsistent step [bounds sub required.items,
      ifPresent default [space, "= ", sub .plain default]]]
  | .node .constParam [own, _, name, _, type, _, default] =>
    cat [attributes sub own, "const ", leaf name, ": ", sub .plain type,
      ifPresent default [" = ", sub .plain default]]
  | _ => empty

/-- The parameters of an item. -/
def generics : Tree → Document
  | .node .generics [_, parameters, _] =>
    cat ["<", consistent 0 [list sub parameters.items], ">"]
  | _ => empty

/-! ## Conditions -/

/-- A condition. -/
def predicate : Tree → Document
  | .node .typePredicate [lifetimes, type, _, required] =>
    cat [sub .plain lifetimes, sub .plain type, ":",
      inconsistent (if required.items.length = 1 then 0 else step)
        [sequence sub " " breakingPlus required.items]]
  | .node .lifetimePredicate [name, _, outlived] =>
    cat [leaf name, ":", inconsistent step [sequence sub " " breakingPlus outlived.items]]
  | _ => empty

/-- The conditions of a clause. -/
def predicates (clause : Tree) : List Document :=
  match clause with
  | .node .whereClause [_, conditions] => conditions.items.map (sub .plain)
  | _ => []

/-- The conditions in front of a body, each on a line of its own; a space if there are none. -/
def whereBody (clause : Tree) : Document :=
  match predicates sub clause with
  | [] => " "
  | found => outdented [outdented [hardBreak], "where", hardBreak,
      cat (found.flatMap fun condition => [condition, ",", hardBreak])]

/-- The conditions at the end of an item with its semicolon, each on a line of its own. -/
def whereEnd (clause : Tree) : Document :=
  match predicates sub clause with
  | [] => ";"
  | found => cat [outdented [hardBreak], "where", hardBreak,
      joined (cat [",", hardBreak]) found, ";"]

/-- The conditions in front of a value, on one line if they fit. -/
def whereInline (clause : Tree) : Document :=
  match predicates sub clause with
  | [] => " "
  | found => outdented [outdented [space], "where", space, cat (delimited commaOrSpace found)]

/-- The conditions at the end of an item with its semicolon, on one line if they fit. -/
def whereInlineEnd (clause : Tree) : Document :=
  match predicates sub clause with
  | [] => ";"
  | found => cat [outdented [space], "where", space, joined (cat [",", space]) found, ";"]

end RouteRegistrar.Style
