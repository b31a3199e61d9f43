import RouteRegistrar.Token.Basic

/-!
# Concrete syntax trees

A parsed source is a tree whose leaves, read from left to right, are its tokens. Every inner node
has a kind, and the kind fixes the order of its children; a child that may be missing is then the
empty node `absent`. A tree therefore prints itself: `tokens` concatenates the leaves, with
operators spelled glued inside and alone at their end.

A few forms are brought into one order when they are read: lifetimes stand in front of other generic
parameters and arguments, and empty parameter lists and empty `where` clauses are left out.

The comment of a kind lists its children. `attrs` is a node of kind `attributes`, a question mark
says that the child may be absent, and `…` that it repeats.
-/

namespace RouteRegistrar

/-- The kind of an inner node. -/
inductive Kind where
  /-- No children. -/
  | absent
  /-- Items with separators between them, possibly one behind the last: `item sep item …` -/
  | punctuated
  /-- `tokens`: accepted source without a structure of its own. -/
  | verbatim
  -- Attributes and paths
  /-- `attribute …` -/
  | attributes
  /-- `# !? [meta]` -/
  | singleAttribute
  /-- `path` -/
  | metaPath
  /-- `path group` -/
  | metaList
  /-- `path = expr` -/
  | metaNameValue
  /-- `::? segment :: segment …` -/
  | path
  /-- `< type as? > :: segment :: segment …` -/
  | qualifiedPath
  /-- `as path` -/
  | asTrait
  /-- `word arguments?` -/
  | segment
  /-- `::? < punctuated >` -/
  | angleArguments
  /-- `(punctuated) returnType?` -/
  | parenArguments
  /-- `word angleArguments? = type` -/
  | assocType
  /-- `word angleArguments? = expr` -/
  | assocConst
  /-- `word angleArguments? : punctuated` -/
  | constraint
  /-- `path ! group` -/
  | macroCall
  -- Generics
  /-- `?? for? path`: a trait, possibly relaxed, possibly with bound lifetimes. -/
  | traitBound
  /-- `(traitBound)` -/
  | parenBound
  /-- `use < punctuated >` -/
  | preciseCapture
  /-- `for < punctuated >` -/
  | boundLifetimes
  /-- `< punctuated >` -/
  | generics
  /-- `attrs lifetime :? punctuated?` -/
  | lifetimeParam
  /-- `attrs word :? punctuated? =? type?` -/
  | typeParam
  /-- `attrs const word : type =? expr?` -/
  | constParam
  /-- `where punctuated` -/
  | whereClause
  /-- `lifetime : punctuated` -/
  | lifetimePredicate
  /-- `for? type : punctuated` -/
  | typePredicate
  -- Types
  /-- `[type]` -/
  | typeSlice
  /-- `[type ; expr]` -/
  | typeArray
  /-- `* const-or-mut type` -/
  | typePointer
  /-- `& lifetime? mut? type` -/
  | typeReference
  /-- `!` -/
  | typeNever
  /-- `(punctuated)` -/
  | typeTuple
  /-- `(type)` -/
  | typeParen
  /-- `for? unsafe? abi? fn (punctuated) returnType?` -/
  | typeFunction
  /-- `attrs word? :? type` -/
  | functionArgument
  /-- `attrs word? :? ... ,?` -/
  | functionVariadic
  /-- `path` or `qualifiedPath` -/
  | typePath
  /-- `dyn? punctuated` -/
  | typeTraitObject
  /-- `impl punctuated` -/
  | typeImplTrait
  /-- `_` -/
  | typeInfer
  /-- `macroCall` -/
  | typeMacro
  /-- `-> type` -/
  | returnType
  /-- `extern literal?` -/
  | abi
  -- Patterns
  /-- `ref? mut? word @? pattern?` -/
  | patIdent
  /-- `_` -/
  | patWild
  /-- `..` -/
  | patRest
  /-- `path` -/
  | patPath
  /-- `(punctuated)` -/
  | patTuple
  /-- `(pattern)` -/
  | patParen
  /-- `path (punctuated)` -/
  | patTupleStruct
  /-- `path {punctuated rest?}` -/
  | patStruct
  /-- `attrs member? :? pattern` -/
  | patField
  /-- `attrs ..` -/
  | patFieldRest
  /-- `|? punctuated` -/
  | patOr
  /-- `& mut? pattern` -/
  | patReference
  /-- `[punctuated]` -/
  | patSlice
  /-- `expr? limits expr?` -/
  | patRange
  /-- `macroCall` -/
  | patMacro
  /-- `attrs pattern : type` -/
  | patType
  /-- `attrs pattern` -/
  | patAttributed
  -- Expressions
  /-- `attrs literal` or `attrs - literal` -/
  | exprLit
  /-- `attrs path` -/
  | exprPath
  /-- `attrs macroCall` -/
  | exprMacro
  /-- `attrs path {punctuated ..? expr?}` -/
  | exprStruct
  /-- `attrs member :? expr?` -/
  | fieldValue
  /-- `attrs (expr)` -/
  | exprParen
  /-- `attrs (punctuated)` -/
  | exprTuple
  /-- `attrs [punctuated]` -/
  | exprArray
  /-- `attrs [expr ; expr]` -/
  | exprRepeat
  /-- `attrs expr (punctuated)` -/
  | exprCall
  /-- `attrs expr . word angleArguments? (punctuated)` -/
  | exprMethodCall
  /-- `attrs expr . member` -/
  | exprField
  /-- `attrs expr . await` -/
  | exprAwait
  /-- `attrs expr [expr]` -/
  | exprIndex
  /-- `attrs expr ?` -/
  | exprTry
  /-- `attrs operator expr` -/
  | exprUnary
  /-- `attrs & mut? expr` -/
  | exprReference
  /-- `attrs & raw const-or-mut expr` -/
  | exprRawAddress
  /-- `attrs expr operator expr` -/
  | exprBinary
  /-- `attrs expr = expr` -/
  | exprAssign
  /-- `attrs expr? limits expr?` -/
  | exprRange
  /-- `attrs expr as type` -/
  | exprCast
  /-- `attrs let pattern = expr` -/
  | exprLet
  /-- `attrs if expr block else? expr?` -/
  | exprIf
  /-- `attrs label? while expr block` -/
  | exprWhile
  /-- `attrs label? for pattern in expr block` -/
  | exprForLoop
  /-- `attrs label? loop block` -/
  | exprLoop
  /-- `attrs match expr {attrs arm …}` -/
  | exprMatch
  /-- `attrs pattern guard? => expr ,?` -/
  | arm
  /-- `if expr` -/
  | guard
  /-- `attrs label? block` -/
  | exprBlock
  /-- `attrs unsafe block` -/
  | exprUnsafe
  /-- `attrs const block` -/
  | exprConst
  /-- `attrs async move? block` -/
  | exprAsync
  /-- `attrs try block` -/
  | exprTryBlock
  /-- `attrs for? const? static? async? move? | punctuated | returnType? expr` -/
  | exprClosure
  /-- `attrs break lifetime? expr?` -/
  | exprBreak
  /-- `attrs continue lifetime?` -/
  | exprContinue
  /-- `attrs return expr?` -/
  | exprReturn
  /-- `attrs yield expr?` -/
  | exprYield
  /-- `attrs _` -/
  | exprInfer
  /-- `lifetime :` -/
  | label
  /-- `{attrs statement …}` -/
  | block
  -- Statements
  /-- `attrs let pattern initializer? ;` -/
  | stmtLet
  /-- `= expr else? block?` -/
  | initializer
  /-- `expr ;?` -/
  | stmtExpr
  /-- `attrs macroCall ;?` -/
  | stmtMacro
  /-- `;` -/
  | stmtEmpty
  -- Items
  /-- `pub`, `pub (word)` or `pub (in path)` -/
  | visibility
  /-- `attrs visibility? signature block` -/
  | itemFn
  /-- `const? async? unsafe? abi? fn word generics? (punctuated) returnType? whereClause?` -/
  | signature
  /-- `attrs &? lifetime? mut? self :? type?` -/
  | receiver
  /-- `attrs pattern? :? ... ,?` -/
  | variadic
  /-- `attrs visibility? unsafe? mod word ;` or the same with `{attrs item …}` -/
  | itemMod
  /-- `attrs visibility? use ::? useTree ;` -/
  | itemUse
  /-- `word :: useTree` -/
  | usePath
  /-- `word` -/
  | useName
  /-- `word as word` -/
  | useRename
  /-- `*` -/
  | useGlob
  /-- `{punctuated}` -/
  | useGroup
  /-- `attrs visibility? struct word generics? whereClause? fields? whereClause? ;?` -/
  | itemStruct
  /-- `{punctuated}` -/
  | fieldsNamed
  /-- `(punctuated)` -/
  | fieldsUnnamed
  /-- `attrs visibility? word? :? type` -/
  | field
  /-- `attrs visibility? enum word generics? whereClause? {punctuated}` -/
  | itemEnum
  /-- `attrs word fields? =? expr?` -/
  | enumVariant
  /-- `attrs visibility? union word generics? whereClause? fieldsNamed` -/
  | itemUnion
  /-- `attrs visibility? const word : type = expr ;` -/
  | itemConst
  /-- `attrs visibility? static mut? word : type = expr ;` -/
  | itemStatic
  /-- `attrs visibility? type word generics? whereClause? = type ;` -/
  | itemType
  /-- `attrs visibility? unsafe? auto? trait word generics? :? punctuated? whereClause?
  {attrs item …}` -/
  | itemTrait
  /-- `attrs visibility? trait word generics? = punctuated whereClause? ;` -/
  | itemTraitAlias
  /-- `attrs default? unsafe? impl generics? implTrait? type whereClause? {attrs item …}` -/
  | itemImpl
  /-- `!? path for` -/
  | implTrait
  /-- `attrs path ! word? group ;?` -/
  | itemMacro
  /-- `attrs visibility? extern crate word as? word? ;` -/
  | itemExternCrate
  /-- `attrs unsafe? abi {attrs item …}` -/
  | itemForeignMod
  /-- `attrs visibility? default? signature block` -/
  | implFn
  /-- `attrs visibility? default? const word : type = expr ;` -/
  | implConst
  /-- `attrs visibility? default? type word generics? = type whereClause? ;` -/
  | implType
  /-- `attrs macroCall ;?` -/
  | memberMacro
  /-- `attrs signature block` or `attrs signature ;` -/
  | traitFn
  /-- `attrs const word : type =? expr? ;` -/
  | traitConst
  /-- `attrs type word generics? :? punctuated? =? type? whereClause? ;` -/
  | traitType
  /-- `attrs visibility? signature ;` -/
  | foreignFn
  /-- `attrs visibility? static mut? word : type ;` -/
  | foreignStatic
  /-- `attrs visibility? type word generics? whereClause? ;` -/
  | foreignType
  /-- `attrs item …` -/
  | file
  deriving DecidableEq, Repr

/-- A concrete syntax tree. -/
inductive Tree where
  /-- An identifier or a keyword. -/
  | word (text : String)
  /-- An operator or a separator. -/
  | op (text : String)
  /-- A literal as written. -/
  | literal (text : String)
  /-- A lifetime without its quote. -/
  | lifetime (name : String)
  /-- Tokens kept as they are. -/
  | tokens (content : List Token)
  /-- A group whose content has been parsed. -/
  | group (delimiter : Delimiter) (content : List Tree)
  | node (kind : Kind) (children : List Tree)
  deriving Repr

namespace Tree

/-- A missing child. -/
def absent : Tree := node .absent []

/-- Whether a child is missing. -/
def isAbsent : Tree → Bool
  | node .absent _ => true
  | _ => false

/-- The kind of an inner node. -/
def kind? : Tree → Option Kind
  | node kind _ => some kind
  | _ => none

/-- Whether a tree is an inner node of a kind. -/
def isKind (kind : Kind) (tree : Tree) : Bool := tree.kind? = some kind

/-- The children of an inner node or a group. -/
def children : Tree → List Tree
  | node _ children => children
  | group _ content => content
  | _ => []

/-- The text of a word. -/
def word? : Tree → Option String
  | word text => some text
  | _ => none

/-- The members at even positions. -/
def everySecond : List Tree → List Tree
  | [] => []
  | [t] => [t]
  | t :: _ :: rest => t :: everySecond rest

/-- The items of a punctuated sequence, without the separators. -/
def items : Tree → List Tree
  | node .punctuated children => everySecond children
  | _ => []

/-- Whether a punctuated sequence ends in a separator. -/
def hasTrailingSeparator : Tree → Bool
  | node .punctuated children => children.length % 2 = 0 && !children.isEmpty
  | _ => false

mutual

/-- The tokens of a tree. -/
def toTokens : Tree → List Token
  | word text => [.ident text]
  | op text => Token.operator text
  | literal text => [.literal text]
  | lifetime name => Token.lifetime name
  | tokens content => content
  | group delimiter content => [.group delimiter (toTokensAll content)]
  | node _ children => toTokensAll children

/-- The tokens of a sequence of trees. -/
def toTokensAll : List Tree → List Token
  | [] => []
  | t :: rest => t.toTokens ++ toTokensAll rest

end

/-- The text of a tree. -/
def text (tree : Tree) : String := Token.textAll tree.toTokens

/-! ## Transformations -/

mutual

/-- Rewrites all inner nodes from the leaves up. -/
def rewrite {ε : Type} (f : Kind → List Tree → Except ε Tree) : Tree → Except ε Tree
  | node kind children => do f kind (← rewriteAll f children)
  | group delimiter content => do return group delimiter (← rewriteAll f content)
  | leaf => .ok leaf

/-- Rewrites all inner nodes of a sequence of trees. -/
def rewriteAll {ε : Type} (f : Kind → List Tree → Except ε Tree) :
    List Tree → Except ε (List Tree)
  | [] => .ok []
  | t :: rest => do return (← rewrite f t) :: (← rewriteAll f rest)

end

end Tree

end RouteRegistrar
