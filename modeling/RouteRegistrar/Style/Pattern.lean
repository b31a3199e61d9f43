import RouteRegistrar.Style.Type

/-!
# Printed patterns
-/

namespace RouteRegistrar.Style

open Document

variable (sub : Printer)

/-- Patterns that may share a line with alternatives. -/
def isSmallPattern (tree : Tree) : Bool := tree.isKind .exprLit || tree.isKind .patWild

/-- Alternative patterns, on lines of their own if they do not fit, unless all of them are small. -/
def alternatives (cases : List Tree) : Document :=
  let body := [sequence sub empty (cat [space, "| "]) cases]
  if cases.all isSmallPattern then inconsistent 0 body else consistent 0 body

/-- Named fields of a pattern or an expression between braces, and what follows them. -/
def fieldsInBraces (fields : List Tree) (last : List Document) : List Document :=
  let separator (isLast : Bool) : Document := commaOrSpace (isLast && last.isEmpty)
  [word " \x7b", spaceIfMore] ++ delimited separator (fields.map (sub .plain)) ++
    (if last.isEmpty then [] else last ++ [space])

/-- A range. Without lower bound, its dots keep clear of dots in front of them. -/
def rangeOf (start limits stop : Tree) : Document :=
  match start, limits with
  | .node .absent _, .op dots => cat [dotted dots, sub .plain stop]
  | _, _ => cat [sub .plain start, leaf limits, sub .plain stop]

/-- The path of a pattern with fields. The type that a path starts at is left out. -/
def patternPath : Tree → Document
  | .node .qualifiedPath (_ :: _ :: base :: _ :: rest) =>
    match base with
    | .node .asTrait [_, name] => path sub .inExpr (.node .path (name.children ++ rest))
    | _ => path sub .inExpr (.node .path rest)
  | name => path sub .inExpr name

/-- A pattern. -/
def pattern : Tree → Document
  | .node .patIdent [reference, mutability, name, _, inner] =>
    cat [modifier reference, modifier mutability, leaf name,
      ifPresent inner [" @ ", sub .plain inner]]
  | .node .patWild _ => "_"
  | .node .patRest _ => ".."
  | .node .patPath [name] => path sub .inExpr name
  | .node .patTuple [.group _ [elements]] => tuple sub elements
  | .node .patParen [.group _ [inner]] => cat ["(", sub .plain inner, ")"]
  | .node .patTupleStruct [name, .group _ [elements]] =>
    cat [patternPath sub name, "(", consistent step [list sub elements.items], ")"]
  | .node .patStruct [name, .group _ [fields, rest]] =>
    cat [consistent step [outdented (patternPath sub name :: fieldsInBraces sub fields.items
      (if rest.isAbsent then [] else [sub .plain rest]))], "\x7d"]
  | .node .patField [own, name, colon, inner] =>
    cat [attributes sub own, ifPresent colon [leaf name, ": "], sub .plain inner]
  | .node .patFieldRest [own, _] => cat [attributes sub own, ".."]
  | .node .patOr [_, cases] => alternatives sub cases.items
  | .node .patReference [_, mutability, inner] =>
    cat ["&", modifier mutability, sub .plain inner]
  | .node .patSlice [.group _ [elements]] =>
    cat ["[", cat (delimited comma (elements.items.map (sub .plain))), "]"]
  | .node .patRange [start, limits, stop] => rangeOf sub start limits stop
  | .node .patMacro [call] => macroCall sub call
  | .node .patType [own, inner, _, type] =>
    cat [attributes sub own, sub .plain inner, ": ", sub .plain type]
  | .node .patAttributed [own, inner] => cat [attributes sub own, sub .plain inner]
  | _ => empty

end RouteRegistrar.Style
