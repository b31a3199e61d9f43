import RouteRegistrar.Grammar.Tree

/-!
# Expressions that need parentheses

A range takes no attributes in front of its lower bound, since they would belong to the bound alone.
A statement that is a range may carry attributes all the same; written again, such a range stands in
parentheses.
-/

namespace RouteRegistrar.Tree

/-- Puts a range with attributes into parentheses. -/
def groupRange : Tree → Tree
  | node .exprRange (node .attributes (first :: more) :: parts) =>
    node .exprParen [node .attributes (first :: more),
      group .parenthesis [node .exprRange (node .attributes [] :: parts)]]
  | tree => tree

mutual

/-- Puts all ranges with attributes into parentheses. -/
def grouped : Tree → Tree
  | node kind children => groupRange (node kind (groupedAll children))
  | group delimiter content => group delimiter (groupedAll content)
  | leaf => leaf

/-- The same for a sequence of trees. -/
def groupedAll : List Tree → List Tree
  | [] => []
  | tree :: rest => grouped tree :: groupedAll rest

end

end RouteRegistrar.Tree
