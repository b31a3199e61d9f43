import RouteRegistrar.Route.Registration

/-!
# Marker types

One type per marker, visible in its crate, that holds the route pattern given to its
constructor.
-/

namespace RouteRegistrar

open Token Registration

namespace RouteMarker

/-- The type of a pattern. -/
def patternType : List Token := operator "&" ++ lifetime "static" ++ [ident "str"]

/-- Visibility in the crate. -/
def crateVisible : List Token := [ident "pub", parens [ident "crate"]]

/-- The tokens that define a marker type. -/
def definition (provenance : String) (name : RouteMarker) : List Token :=
  let typeName := ident (definitionName name.text)
  let parameter := [ident "pattern"] ++ operator ":" ++ patternType
  let mayBeUnused := outerAttribute [ident "allow", parens [ident "dead_code"]]
  docAttribute ("Route annotation `" ++ name.text ++ "`, generated by " ++ provenance ++ ".") ++
    mayBeUnused ++ crateVisible ++
    [ident "struct", typeName, braces (parameter ++ operator ",")] ++
    mayBeUnused ++
    [ident "impl", typeName,
      braces (crateVisible ++ [ident "const", ident "fn", ident "new", parens parameter] ++
        operator "->" ++
        [ident "Self", braces [ident "Self", braces [ident "pattern"]]])]

/-- The definitions of a list of markers in order. -/
def definitions (names : List RouteMarker) (provenance : String) : List Token :=
  names.flatMap (definition provenance)

end RouteMarker

end RouteRegistrar
