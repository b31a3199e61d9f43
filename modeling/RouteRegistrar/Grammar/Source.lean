import RouteRegistrar.Grammar.Grouping
import RouteRegistrar.Grammar.Statement
import RouteRegistrar.Token.Lexer

/-!
# Parsing source text

The recursion between the rules of the grammar is tied here. Each call of a rule costs one unit of
fuel; rules call each other only a few times before a token is taken, so fuel in proportion to the
number of tokens is enough.

A source file may begin with a byte order mark and with a line that names its interpreter.
-/

namespace RouteRegistrar.Grammar

open RouteRegistrar.Parser RouteRegistrar.Token

/-- The rule of a goal, given the parsers of all goals. -/
def rule (sub : Goal → Parser Tree) : Goal → Parser Tree
  | .arguments => angleArguments sub
  | .parameter => genericParam sub
  | .type plus => type sub plus
  | .pattern => pattern sub
  | .patterns => patterns sub
  | .expr structs => expr sub structs
  | .unary structs => unary sub structs
  | .continued lhs structs base => continued sub lhs structs base
  | .earlyExpr => earlyExpr sub
  | .conditional => exprIf sub
  | .block attributes => block sub attributes
  | .item => item sub
  | .implItem => implItem sub
  | .traitItem => traitItem sub
  | .foreignItem => foreignItem sub
  | .useTree root => useTree sub root

/-- The parser of a goal with a limited number of nested calls. -/
def derive : Nat → Goal → Parser Tree
  | 0, _ => failure
  | fuel + 1, goal => rule (derive fuel) goal

/-- A number of nested calls that suffices for a sequence of tokens. -/
def fuelFor (ts : List Token) : Nat := 32 * (countAll ts + 2)

/-- Runs a parser on all tokens, given the parsers of all goals. -/
def parseAll (parser : (Goal → Parser Tree) → Parser Tree) (ts : List Token) : Option Tree :=
  match parser (derive (fuelFor ts)) ts with
  | some (tree, []) => some tree.grouped
  | _ => none

/-- The content of a source file. -/
def file (sub : Goal → Parser Tree) : Parser Tree := do
  let attributes ← innerAttributes sub
  return .node .file (attributes :: (← all (sub .item)))

/-- The tree of the tokens of a source file. -/
def fileOfTokens? (ts : List Token) : Option Tree := parseAll file ts

/-- Drops a first line that names an interpreter. A bracket behind the two characters that begin
such a line means that they begin an attribute. -/
def dropInterpreterLine : List Char → List Char
  | '#' :: '!' :: rest =>
    if (skipBlanks rest).head? = some '[' then '#' :: '!' :: rest
    else ('#' :: '!' :: rest).dropWhile (· ≠ '\n')
  | text => text

/-- The tree of a source file. -/
def ofSource? (text : String) : Option Tree :=
  let content := dropInterpreterLine (dropByteOrderMark text.toList)
  (tokenize (String.ofList content)).bind fileOfTokens?

/-- The tree of a single item. -/
def itemOfText? (text : String) : Option Tree :=
  (tokenize text).bind (parseAll fun sub => sub .item)

end RouteRegistrar.Grammar
