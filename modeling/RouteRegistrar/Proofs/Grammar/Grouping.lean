import Mathlib.Data.List.Basic
import RouteRegistrar.Grammar.Grouping
import RouteRegistrar.Route.Expansion

/-!
# What parentheses around ranges keep

Only ranges are touched: any other tree keeps its kind and the number of its children, a word stays
as it is, and a path keeps its names.
-/

namespace RouteRegistrar.Grammar

theorem groupedAll_eq_map (trees : List Tree) : Tree.groupedAll trees = trees.map Tree.grouped := by
  induction trees with
  | nil => rfl
  | cons tree rest ih => simp [Tree.groupedAll, ih]

theorem grouped_node {kind : Kind} (hkind : kind ≠ .exprRange) (children : List Tree) :
    (Tree.node kind children).grouped = .node kind (children.map Tree.grouped) := by
  rw [Tree.grouped, groupedAll_eq_map]
  unfold Tree.groupRange
  split
  case h_1 heq =>
    injection heq with hrange
    exact absurd hrange hkind
  case h_2 => rfl

theorem grouped_group (delimiter : Delimiter) (content : List Tree) :
    (Tree.group delimiter content).grouped = .group delimiter (content.map Tree.grouped) := by
  rw [Tree.grouped, groupedAll_eq_map]

theorem isKind_grouped (kind : Kind) (tree : Tree) (hrange : kind ≠ .exprRange)
    (hparen : kind ≠ .exprParen) : tree.grouped.isKind kind = tree.isKind kind := by
  cases tree with
  | node found children =>
    by_cases hfound : found = .exprRange
    · -- A range stays one or comes to stand in parentheses, and neither is of the kind.
      subst hfound
      have hkind (parts : List Tree) : (Tree.node .exprRange parts).isKind kind = false ∧
          (Tree.node .exprParen parts).isKind kind = false := by
        simp [Tree.isKind, Tree.kind?, hrange.symm, hparen.symm]
      rw [Tree.grouped]
      unfold Tree.groupRange
      split
      case h_1 => exact (hkind _).2.trans (hkind _).1.symm
      case h_2 => exact (hkind _).1.trans (hkind _).1.symm
    · rw [grouped_node hfound]
      rfl
  | _ => rfl

theorem word?_grouped (tree : Tree) : tree.grouped.word? = tree.word? := by
  cases tree with
  | node kind children =>
    rw [Tree.grouped]
    unfold Tree.groupRange
    split <;> rfl
  | _ => rfl

/-- The first word of a segment is no range. -/
theorem head?_word?_grouped {part : Tree} (hpart : part.isKind .segment = true) :
    part.grouped.children.head?.bind Tree.word? = part.children.head?.bind Tree.word? := by
  cases part with
  | node kind children =>
    have hkind : kind ≠ .exprRange := by
      rintro rfl
      cases hpart
    rw [grouped_node hkind, Tree.children, Tree.children, List.head?_map]
    cases children.head? with
    | none => rfl
    | some first => exact word?_grouped first
  | _ => cases hpart

theorem segments_grouped (parts : List Tree) :
    segments (.node .path (parts.map Tree.grouped)) =
      (segments (.node .path parts)).map Tree.grouped := by
  have hkind : Tree.isKind .segment ∘ Tree.grouped = Tree.isKind .segment :=
    funext fun part => isKind_grouped .segment part nofun nofun
  exact List.filter_map.trans (by rw [hkind]; rfl)

/-- The names of a path have no ranges in them. -/
theorem pathNames_grouped (parts : List Tree) :
    (Tree.node .path (parts.map Tree.grouped)).pathNames = (Tree.node .path parts).pathNames := by
  rw [Tree.pathNames, segments_grouped, List.filterMap_map]
  exact List.filterMap_congr fun part hpart => head?_word?_grouped (List.mem_filter.mp hpart).2

end RouteRegistrar.Grammar
