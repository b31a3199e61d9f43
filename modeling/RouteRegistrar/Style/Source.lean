import RouteRegistrar.Document.Layout
import RouteRegistrar.Failure
import RouteRegistrar.Grammar.Source
import RouteRegistrar.Style.Item

/-!
# Printed source files

Tokens that are a source file are printed by the rules of this folder; any other tokens are printed
with a space between two of them. Accepted source that has no structure of its own has no printed
form, and neither has a macro definition that is no list of rules.

The recursion between the rules is tied here. A rule asks for the parts of its tree, or for its own
tree in another form, so fuel in proportion to the size of the tree is enough.
-/

namespace RouteRegistrar

namespace Style

open Document

/-! ## Rules -/

variable (sub : Printer)

/-- The printed form of an inner node. -/
def nodeRule (kind : Kind) (tree : Tree) : Document :=
  match kind with
  | .absent | .punctuated | .verbatim => empty
  | .attributes => attributes sub tree
  | .path | .qualifiedPath => path sub .inType tree
  | .assocType | .assocConst | .constraint => associated sub tree
  | .traitBound => traitBound sub tree
  | .parenBound => parenBound sub tree
  | .preciseCapture => preciseCapture sub tree
  | .boundLifetimes => boundLifetimes sub tree
  | .lifetimeParam | .typeParam | .constParam => genericParam sub tree
  | .lifetimePredicate | .typePredicate => predicate sub tree
  | .typeSlice | .typeArray | .typePointer | .typeReference | .typeNever | .typeTuple | .typeParen
  | .typeFunction | .functionArgument | .functionVariadic | .typePath | .typeTraitObject
  | .typeImplTrait | .typeInfer | .typeMacro => type sub tree
  | .patIdent | .patWild | .patRest | .patPath | .patTuple | .patParen | .patTupleStruct
  | .patStruct | .patField | .patFieldRest | .patOr | .patReference | .patSlice | .patRange
  | .patMacro | .patType | .patAttributed => pattern sub tree
  | .stmtLet | .stmtExpr | .stmtMacro | .stmtEmpty => statement sub tree
  | .itemUse | .usePath | .useName | .useRename | .useGlob | .useGroup | .itemExternCrate =>
    importItem sub tree
  | .itemStruct | .field | .itemEnum | .enumVariant | .itemUnion => dataItem sub tree
  | .itemMod | .itemForeignMod | .itemImpl | .itemTrait | .itemTraitAlias => enclosingItem sub tree
  | .itemFn | .implFn | .traitFn | .foreignFn | .itemConst | .implConst | .traitConst | .itemStatic
  | .foreignStatic | .receiver | .variadic => valueItem sub tree
  | .itemType | .implType | .traitType | .foreignType => typeItem sub tree
  | .itemMacro | .memberMacro => macroItems sub tree
  | .file => consistent 0 (tree.children.map (sub .plain))
  | _ => expr sub false tree

/-- The printed form of a tree, given the printed forms of all trees. -/
def rule (form : Form) (tree : Tree) : Document :=
  match form, tree with
  | .receiver lineStart, _ => receiver sub lineStart tree
  | .lineStart, _ => expr sub true tree
  | .plain, .node kind _ => nodeRule sub kind tree
  | .plain, _ => leaf tree

/-- The printed forms of trees with a limited number of nested calls. -/
def derive : Nat → Printer
  | 0, _, _ => empty
  | fuel + 1, form, tree => rule (derive fuel) form tree

/-! ## What can be printed -/

mutual

/-- Whether all parts of a tree have a printed form. -/
def isPrintable : Tree → Bool
  | .node .verbatim _ => false
  | .node .itemMacro
      [own, name, bang, .word defined, .tokens [.group delimiter rules], semicolon] =>
    areAllPrintable [own, name, bang, .word defined, .tokens [.group delimiter rules], semicolon] &&
      (!isMacroDefinition name || (macroRules? defined rules).isSome)
  | .node _ children => areAllPrintable children
  | .group _ content => areAllPrintable content
  | _ => true

/-- The same for a sequence of trees. -/
def areAllPrintable : List Tree → Bool
  | [] => true
  | tree :: rest => isPrintable tree && areAllPrintable rest

end

end Style

open Style

namespace Tree

mutual

/-- The number of nodes of a tree. -/
def size : Tree → Nat
  | node _ children => sizeAll children + 1
  | group _ content => sizeAll content + 1
  | _ => 1

/-- The number of nodes of a sequence of trees. -/
def sizeAll : List Tree → Nat
  | [] => 0
  | tree :: rest => tree.size + sizeAll rest

end

/-- The printed form of a tree. -/
def toDocument (tree : Tree) : Document := derive (4 * tree.size) .plain tree

end Tree

namespace Token

/-- The printed form of the tokens of a source file. -/
def sourceText (tokens : List Token) : Except Failure String :=
  match Grammar.fileOfTokens? tokens with
  | some tree =>
    if isPrintable tree then .ok tree.toDocument.render else .error .unprintable
  | none => .ok (textAll tokens)

end Token

end RouteRegistrar
