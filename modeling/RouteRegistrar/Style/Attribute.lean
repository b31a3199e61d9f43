import RouteRegistrar.Document.Basic
import RouteRegistrar.Grammar.Path
import RouteRegistrar.Text.Quoted

/-!
# Printed attributes and paths

A printed form is a document for a tree. The rules call each other through a function that is given
to all of them, and the recursion is tied in one place.

Documentation is printed as a comment where a comment can hold its text. Any other attribute is
printed in its brackets, followed by the end of a line or a space.
-/

namespace RouteRegistrar

/-- The position for which a tree is printed. -/
inductive Form where
  | plain
  /-- An expression at the beginning of a line. -/
  | lineStart
  /-- An expression in front of an access in a chain of accesses. -/
  | receiver (lineStart : Bool)
  deriving DecidableEq, Repr

/-- The printed forms of trees. -/
abbrev Printer := Form → Tree → Document

namespace Style

open Document

/-- The text of a leaf. -/
def leaf : Tree → Document
  | .word text => word text
  | .op text => word text
  | .literal text => word text
  | .lifetime name => word ("'" ++ name)
  | _ => empty

/-- What a child is printed as, with text in front and behind; nothing if it is absent. -/
def ifPresent (child : Tree) (parts : List Document) : Document :=
  onlyIf (!child.isAbsent) (cat parts)

variable (sub : Printer)

/-! ## Paths -/

/-- Where a path stands, which says how its arguments are written. -/
inductive PathUse where
  /-- Arguments are left out. -/
  | bare
  | inType
  /-- Arguments stand behind two colons. -/
  | inExpr
  deriving DecidableEq

/-- Items between a place and a comma, each behind its own line if they do not fit. -/
def list (items : List Tree) : Document :=
  outdented (zeroBreak :: delimited comma (items.map (sub .plain)))

/-- The type behind an arrow, or nothing. -/
def returnType : Tree → Document
  | .node .returnType [_, type] => cat [" -> ", sub .plain type]
  | _ => empty

/-- Arguments in angle brackets. -/
def angleArguments (use : PathUse) : Tree → Document
  | .node .angleArguments [_, _, arguments, _] =>
    onlyIf (!arguments.items.isEmpty && use ≠ .bare)
      (cat [onlyIf (use = .inExpr) "::", "<", consistent step [list sub arguments.items], ">"])
  | _ => empty

/-- The arguments of a segment. -/
def segmentArguments (use : PathUse) : Tree → Document
  | .node .parenArguments [.group _ [inputs], output] =>
    consistent step ["(", list sub inputs.items, ")", returnType sub output]
  | arguments => angleArguments sub use arguments

/-- A part of a path. -/
def pathPart (use : PathUse) : Tree → Document
  | .node .segment [name, arguments] => cat [leaf name, segmentArguments sub use arguments]
  | .node .asTrait [_, base] => cat [" as ", sub .plain base]
  | .op text => text
  | part => sub .plain part

/-- A path, which may start at a type in angle brackets. -/
def path (use : PathUse) (tree : Tree) : Document := cat (tree.children.map (pathPart sub use))

/-! ## Arguments of attributes -/

/-- What the last token of an attribute was. -/
inductive AttributeState where
  | word
  | mark
  | lastComma
  deriving DecidableEq

mutual

/-- A token among the arguments of an attribute. -/
def attributeToken (isLast : Bool) (state : AttributeState) : Token → Document × AttributeState
  | .ident text => (cat [onlyIf (state = .word) space, text], .word)
  | .literal text => (cat [onlyIf (state = .word) space, text], .word)
  | .punct c _ =>
    if c = ',' && isLast then (comma true, .lastComma)
    else
      (cat [onlyIf (state = .word && c = '=') " ", c.toString, onlyIf (c = '=') " ",
        onlyIf (c = ',') space], .mark)
  | .group .parenthesis content =>
    let (inner, last) := attributeTokens .mark content
    (cat ["(", consistent step [outdented [zeroBreak, inner, onlyIf (last ≠ .lastComma) zeroBreak]],
      ")"], .mark)
  | .group .bracket content => (cat ["[", (attributeTokens .mark content).1, "]"], .mark)
  | .group .brace content => (cat ["\x7b", (attributeTokens .mark content).1, "\x7d"], .mark)

/-- The arguments of an attribute. -/
def attributeTokens (state : AttributeState) : List Token → Document × AttributeState
  | [] => (empty, state)
  | token :: rest =>
    let (first, next) := attributeToken rest.isEmpty state token
    let (more, last) := attributeTokens next rest
    (cat [first, more], last)

end

/-! ## Comments -/

/-- The text that an attribute gives to a name, if it is a plain string. -/
def textValue? (name : String) : Tree → Option String
  | .node .metaNameValue
      [.node .path [colons, .node .segment [.word found, _]], _,
        .node .exprLit [.node .attributes [], .literal value]] =>
    if colons.isAbsent && found = name then Text.Quoted.value? value else none
  | _ => none

/-- Drops the spaces at the end. -/
def trimEnd (text : List Char) : List Char := (text.reverse.dropWhile (· = ' ')).reverse

/-- Drops the spaces at the end of every line but the last. -/
def trimLines (text : String) : String :=
  let lines := Text.splitOn '\n' text.toList
  let trimmed := lines.dropLast.map trimEnd ++ (lines.getLast?.map ([·])).getD []
  String.ofList (['\n'].intercalate trimmed)

/-- Whether the comments that a text opens are closed again, and no other ones. The last character
opens or closes none. -/
def isBalanced (depth : Nat) : List Char → Bool
  | '/' :: '*' :: rest => isBalanced (depth + 1) rest
  | '*' :: '/' :: rest => depth > 0 && isBalanced (depth - 1) rest
  | _ :: rest => isBalanced depth rest
  | [] => depth = 0

/-- Whether a text can stand in a block comment. -/
def fitsBlockComment (text : String) : Bool := isBalanced 0 text.toList && !text.endsWith "/"

/-- Whether a text begins with one of several characters. -/
def startsWithSome (chars : List Char) (text : String) : Bool :=
  text.toList.head?.any chars.contains

/-- A comment on a line of its own, where the text fits into one line. Otherwise a block comment, if
the text can stand in one. -/
def comment? (line block : String) (notInLine notInBlock : List Char) (text : String) :
    Option Document :=
  if !text.toList.contains '\n' && !startsWithSome notInLine text then
    some (cat [line, String.ofList (trimEnd text.toList), hardBreak])
  else if fitsBlockComment text && !startsWithSome notInBlock text then
    some (cat [block, trimLines text, "*/", hardBreak])
  else none

/-- The comment that stands for an attribute. -/
def attributeComment? (isInner : Bool) (content : Tree) : Option Document :=
  match textValue? "doc" content, textValue? "comment" content with
  | some text, _ =>
    if isInner then comment? "//!" "/*!" [] [] text
    else comment? "///" "/**" ['/'] ['*', '/'] text
  | none, some text => comment? "//" "/*" [] ['*', '!'] text
  | none, none => none

/-! ## Attributes -/

/-- What stands in the brackets of an attribute. -/
def attributeContent : Tree → Document
  | .node .metaPath [name] => path sub .bare name
  | .node .metaList [name, .tokens content] =>
    cat [path sub .bare name, (attributeTokens .word content).1]
  | .node .metaNameValue [name, _, value] => cat [path sub .bare name, " = ", sub .plain value]
  | _ => empty

/-- An attribute with what follows it. -/
def singleAttribute : Tree → Document
  | .node .singleAttribute [_, bang, .group _ [content]] =>
    (attributeComment? (!bang.isAbsent) content).getD
      (cat ["#", leaf bang, "[", attributeContent sub content, "]", space])
  | _ => empty

/-- Attributes, one behind the other. -/
def attributes (tree : Tree) : Document := cat (tree.children.map (singleAttribute sub))

/-- Whether an expression carries attributes. -/
def hasAttributes (tree : Tree) : Bool :=
  match tree.children with
  | own :: _ => own.isKind .attributes && !own.children.isEmpty
  | [] => false

end Style

end RouteRegistrar
