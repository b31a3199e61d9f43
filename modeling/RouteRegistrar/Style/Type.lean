import RouteRegistrar.Style.Generics
import RouteRegistrar.Style.Macro

/-!
# Printed types
-/

namespace RouteRegistrar.Style

open Document

variable (sub : Printer)

/-- Parameters with a comma behind each, where dots that stand for more take none. -/
def parameterList : List Tree → List Document
  | [] => []
  | item :: rest =>
    let isDots : Bool := item.isKind .variadic || item.isKind .functionVariadic
    sub .plain item :: (if isDots then zeroBreak else comma rest.isEmpty) :: parameterList rest

/-- The calling convention of a function. -/
def abi : Tree → Document
  | .node .abi [_, name] => cat ["extern ", ifPresent name [leaf name, " "]]
  | _ => empty

/-- A word with a space, if it is present. -/
def modifier (tree : Tree) : Document := ifPresent tree [leaf tree, " "]

/-- A tuple, where a single element keeps its comma. -/
def tuple (elements : Tree) : Document :=
  match elements.items with
  | [only] => cat ["(", consistent step [outdented [zeroBreak, sub .plain only,
      onlyIf elements.hasTrailingSeparator ",", zeroBreak]], ")"]
  | items => cat ["(", consistent step [list sub items], ")"]

/-- A function type. -/
def functionType : Tree → Document
  | .node .typeFunction [lifetimes, safety, convention, _, .group _ [inputs], output] =>
    cat [sub .plain lifetimes, modifier safety, abi convention, "fn(",
      consistent step [outdented (zeroBreak :: parameterList sub inputs.items)], ")",
      returnType sub output]
  | .node .functionArgument [own, name, _, type] =>
    cat [attributes sub own, ifPresent name [leaf name, ": "], sub .plain type]
  | .node .functionVariadic [own, name, _, _, _] =>
    cat [attributes sub own, ifPresent name [leaf name, ": "], "..."]
  | _ => empty

/-- A type. -/
def type : Tree → Document
  | .node .typeSlice [.group _ [element]] => cat ["[", sub .plain element, "]"]
  | .node .typeArray [.group _ [element, _, length]] =>
    cat ["[", sub .plain element, "; ", sub .plain length, "]"]
  | .node .typePointer [_, mutability, target] => cat ["*", modifier mutability, sub .plain target]
  | .node .typeReference [_, name, mutability, target] =>
    cat ["&", modifier name, modifier mutability, sub .plain target]
  | .node .typeNever _ => "!"
  | .node .typeTuple [.group _ [elements]] => tuple sub elements
  | .node .typeParen [.group _ [inner]] => cat ["(", sub .plain inner, ")"]
  | .node .typePath [name] => path sub .inType name
  | .node .typeTraitObject [_, required] => cat ["dyn ", sequence sub empty " + " required.items]
  | .node .typeImplTrait [_, required] => cat ["impl ", sequence sub empty " + " required.items]
  | .node .typeInfer _ => "_"
  | .node .typeMacro [call] => macroCall sub call
  | tree => functionType sub tree

end RouteRegistrar.Style
