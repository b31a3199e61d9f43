import RouteRegistrar.Grammar.Parser

/-!
# Goals of the grammar

The rules of the grammar call each other through goals. A rule is a parser that is given the parsers
of all goals, so the rules are written without recursion, and the recursion is tied in one place.
-/

namespace RouteRegistrar

/-- How tightly an expression holds together, from the loosest form to the tightest. -/
inductive Precedence where
  | jump
  | assign
  | range
  | or
  | and
  | «let»
  | compare
  | bitOr
  | bitXor
  | bitAnd
  | shift
  | sum
  | product
  | cast
  | unary
  | unambiguous
  deriving DecidableEq, Repr

namespace Precedence

/-- The position in the order. -/
def rank : Precedence → Nat
  | jump => 0
  | assign => 1
  | range => 2
  | or => 3
  | and => 4
  | «let» => 5
  | compare => 6
  | bitOr => 7
  | bitXor => 8
  | bitAnd => 9
  | shift => 10
  | sum => 11
  | product => 12
  | cast => 13
  | unary => 14
  | unambiguous => 15

instance : LT Precedence := ⟨fun a b => a.rank < b.rank⟩

instance : LE Precedence := ⟨fun a b => a.rank ≤ b.rank⟩

instance (a b : Precedence) : Decidable (a < b) := inferInstanceAs (Decidable (a.rank < b.rank))

instance (a b : Precedence) : Decidable (a ≤ b) := inferInstanceAs (Decidable (a.rank ≤ b.rank))

end Precedence

/-- What a rule may ask another rule for. -/
inductive Goal where
  /-- Generic arguments in angle brackets, possibly behind two colons. -/
  | arguments
  /-- A generic parameter. -/
  | parameter
  /-- A type. `plus` says whether it may be a sum of bounds. -/
  | type (plus : Bool)
  /-- A pattern without alternatives. -/
  | pattern
  /-- Alternative patterns. -/
  | patterns
  /-- An expression. `structs` says whether a brace behind a path begins a struct. -/
  | expr (structs : Bool)
  /-- An operand with its prefix operators. -/
  | unary (structs : Bool)
  /-- What may follow an expression, down to a precedence. -/
  | continued (lhs : Tree) (structs : Bool) (base : Precedence)
  /-- An expression in a position where one that ends in a block is complete. -/
  | earlyExpr
  /-- A condition with its branches. -/
  | conditional
  /-- Statements in braces. `attributes` says whether attributes of the block may come first. -/
  | block (attributes : Bool)
  | item
  | implItem
  | traitItem
  | foreignItem
  /-- What follows `use`. `root` says whether a path of a group may begin with two colons. -/
  | useTree (root : Bool)

namespace Grammar

/-- A list without attributes. -/
def noAttributes : Tree := .node .attributes []

/-- An expression or item with more attributes in front. -/
def addAttributes (attributes : List Tree) : Tree → Tree
  | .node kind (.node .attributes own :: rest) =>
    .node kind (.node .attributes (attributes ++ own) :: rest)
  | other => other

end Grammar

end RouteRegistrar
