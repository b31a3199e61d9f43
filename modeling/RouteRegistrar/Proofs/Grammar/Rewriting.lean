import Mathlib.Data.List.Forall2
import RouteRegistrar.Failure
import RouteRegistrar.Grammar.Tree

/-!
# Rewriting trees

A tree is rewritten from the leaves up, so what a rewriting does to a tree is shown by induction:
for a node from what it does to the children, and for a leaf at once.

The parts of a tree are the tree itself and the parts of its children.
-/

namespace RouteRegistrar

namespace Tree

variable {ε : Type} {f : Kind → List Tree → Except ε Tree} {kind : Kind} {delimiter : Delimiter}
  {children results content : List Tree} {part tree result : Tree}

/-- A tree without anything below it. -/
def isLeaf : Tree → Bool
  | node _ _ => false
  | group _ _ => false
  | _ => true

/-! ## Induction -/

mutual

/-- A property of all trees holds of leaves, and of a node or a group if it holds of what is
directly below. -/
theorem inductionOn {motive : Tree → Prop} (leaf : ∀ tree, tree.isLeaf = true → motive tree)
    (group : ∀ delimiter content, (∀ tree ∈ content, motive tree) →
      motive (.group delimiter content))
    (node : ∀ kind children, (∀ tree ∈ children, motive tree) → motive (.node kind children)) :
    ∀ tree, motive tree
  | .word _ => leaf _ rfl
  | .op _ => leaf _ rfl
  | .literal _ => leaf _ rfl
  | .lifetime _ => leaf _ rfl
  | .tokens _ => leaf _ rfl
  | .group delimiter content => group delimiter content (inductionOnAll leaf group node content)
  | .node kind children => node kind children (inductionOnAll leaf group node children)

/-- A property of all trees holds of each tree of a list. -/
theorem inductionOnAll {motive : Tree → Prop} (leaf : ∀ tree, tree.isLeaf = true → motive tree)
    (group : ∀ delimiter content, (∀ tree ∈ content, motive tree) →
      motive (.group delimiter content))
    (node : ∀ kind children, (∀ tree ∈ children, motive tree) → motive (.node kind children)) :
    ∀ trees : List Tree, ∀ tree ∈ trees, motive tree
  | [] => fun _ hmem => absurd hmem List.not_mem_nil
  | first :: rest => List.forall_mem_cons.mpr
      ⟨inductionOn leaf group node first, inductionOnAll leaf group node rest⟩

end

/-! ## Rewriting -/

theorem rewrite_leaf (h : tree.isLeaf = true) : tree.rewrite f = .ok tree := by
  cases tree with
  | node | group => cases h
  | _ => rfl

/-- Several trees are rewritten one by one. -/
theorem rewriteAll_eq_ok_iff : rewriteAll f children = .ok results ↔
    List.Forall₂ (fun tree result => tree.rewrite f = .ok result) children results := by
  induction children generalizing results with
  | nil =>
    rw [rewriteAll, Except.ok.injEq, List.forall₂_nil_left_iff]
    exact eq_comm
  | cons first rest ih =>
    rw [rewriteAll, List.forall₂_cons_left_iff]
    -- The children are rewritten in order, and the first failure ends this.
    constructor
    · intro h
      obtain ⟨head, hhead, h⟩ := bind_eq_ok.mp h
      obtain ⟨tail, htail, h⟩ := bind_eq_ok.mp h
      exact ⟨head, tail, hhead, ih.mp htail, (Except.ok.inj h).symm⟩
    · rintro ⟨head, tail, hhead, htail, rfl⟩
      exact bind_eq_ok.mpr ⟨head, hhead, bind_eq_ok.mpr ⟨tail, ih.mpr htail, rfl⟩⟩

/-- A node is rewritten behind its children. -/
theorem rewrite_node_eq_ok_iff : (node kind children).rewrite f = .ok result ↔
    ∃ results, List.Forall₂ (fun tree result => tree.rewrite f = .ok result) children results ∧
      f kind results = .ok result := by
  rw [rewrite, bind_eq_ok]
  simp only [rewriteAll_eq_ok_iff]

/-- In a group, only the content is rewritten. -/
theorem rewrite_group_eq_ok_iff : (group delimiter content).rewrite f = .ok result ↔
    ∃ results, List.Forall₂ (fun tree result => tree.rewrite f = .ok result) content results ∧
      result = group delimiter results := by
  rw [rewrite, bind_eq_ok]
  simp only [rewriteAll_eq_ok_iff]
  constructor
  · rintro ⟨results, hresults, h⟩
    exact ⟨results, hresults, (Except.ok.inj h).symm⟩
  · rintro ⟨results, hresults, rfl⟩
    exact ⟨results, hresults, rfl⟩

/-- Trees that are rewritten alike one by one are rewritten alike together. -/
theorem rewriteAll_map {g : Tree → Tree}
    (h : ∀ tree ∈ children, (g tree).rewrite f = tree.rewrite f) :
    rewriteAll f (children.map g) = rewriteAll f children := by
  induction children with
  | nil => rfl
  | cons first rest ih =>
    obtain ⟨hfirst, hrest⟩ := List.forall_mem_cons.mp h
    rw [List.map_cons, rewriteAll, rewriteAll, hfirst, ih hrest]

/-- Trees that are matched one by one have a property together if each has it with its match. -/
theorem exists_mem_iff_of_forall₂ {α β : Type} {related : α → β → Prop} {holds : α → Prop}
    {holdsToo : β → Prop} {children : List α} {results : List β}
    (h : List.Forall₂ related children results)
    (hiff : ∀ tree result, tree ∈ children → related tree result →
      (holdsToo result ↔ holds tree)) :
    (∃ result ∈ results, holdsToo result) ↔ ∃ tree ∈ children, holds tree := by
  induction h with
  | nil => simp
  | cons hfirst _ ih =>
    -- The first of both lists are related, and the rest follows by induction.
    rw [List.exists_mem_cons_iff, List.exists_mem_cons_iff, hiff _ _ List.mem_cons_self hfirst,
      ih fun tree result htree => hiff tree result (List.mem_cons_of_mem _ htree)]

/-- What holds of every match of a tree holds of all trees that are matched one by one. -/
theorem forall_mem_of_forall₂ {α β : Type} {related : α → β → Prop} {holds : β → Prop}
    {children : List α} {results : List β} (h : List.Forall₂ related children results)
    (hholds : ∀ tree ∈ children, ∀ result, related tree result → holds result) :
    ∀ result ∈ results, holds result := by
  induction h with
  | nil => exact nofun
  | cons hfirst _ ih =>
    obtain ⟨hhead, htail⟩ := List.forall_mem_cons.mp hholds
    exact List.forall_mem_cons.mpr ⟨hhead _ hfirst, ih htail⟩

/-- Trees can be matched one by one if each of them has a match. -/
theorem exists_forall₂_iff {α β : Type} {related : α → β → Prop} {children : List α} :
    (∃ results, List.Forall₂ related children results) ↔
      ∀ tree ∈ children, ∃ result, related tree result := by
  induction children with
  | nil => exact ⟨fun _ => nofun, fun _ => ⟨[], .nil⟩⟩
  | cons first rest ih =>
    rw [List.forall_mem_cons, ← ih]
    constructor
    · rintro ⟨_, _ | ⟨hhead, htail⟩⟩
      exact ⟨⟨_, hhead⟩, ⟨_, htail⟩⟩
    · rintro ⟨⟨head, hhead⟩, ⟨tail, htail⟩⟩
      exact ⟨head :: tail, .cons hhead htail⟩

/-- A rewriting whose steps succeed succeeds. -/
theorem exists_rewrite (h : ∀ kind children, ∃ result, f kind children = .ok result)
    (tree : Tree) : ∃ result, tree.rewrite f = .ok result := by
  induction tree using inductionOn with
  | leaf tree hleaf => exact ⟨tree, rewrite_leaf hleaf⟩
  | group delimiter content ih =>
    obtain ⟨results, hresults⟩ := exists_forall₂_iff.mpr ih
    exact ⟨_, rewrite_group_eq_ok_iff.mpr ⟨results, hresults, rfl⟩⟩
  -- Only a step can fail, and it is defined for every node.
  | node kind children ih =>
    obtain ⟨results, hresults⟩ := exists_forall₂_iff.mpr ih
    obtain ⟨result, hresult⟩ := h kind results
    exact ⟨result, rewrite_node_eq_ok_iff.mpr ⟨results, hresults, hresult⟩⟩

/-- A word is not rewritten, and no tree becomes a word if no step makes one. -/
theorem word?_of_rewrite (hf : ∀ kind children result, f kind children = .ok result →
      result.kind? = some kind) (h : tree.rewrite f = .ok result) : result.word? = tree.word? := by
  cases tree with
  | node kind children =>
    obtain ⟨results, -, hstep⟩ := rewrite_node_eq_ok_iff.mp h
    -- A node stays a node, and no node is a word.
    have hkind := hf kind results result hstep
    cases result with
    | node => rfl
    | _ => cases hkind
  | group delimiter content =>
    obtain ⟨results, -, rfl⟩ := rewrite_group_eq_ok_iff.mp h
    rfl
  | _ =>
    cases h
    rfl

/-- A rewriting whose steps keep the kinds of nodes keeps the kind of every tree. -/
theorem kind?_of_rewrite (hf : ∀ kind children result, f kind children = .ok result →
      result.kind? = some kind) (h : tree.rewrite f = .ok result) : result.kind? = tree.kind? := by
  cases tree with
  | node kind children =>
    obtain ⟨results, -, hstep⟩ := rewrite_node_eq_ok_iff.mp h
    exact hf kind results result hstep
  | group delimiter content =>
    obtain ⟨results, -, rfl⟩ := rewrite_group_eq_ok_iff.mp h
    rfl
  | _ =>
    cases h
    rfl

/-! ## Parts -/

mutual

/-- A tree and all trees below it. -/
def parts : Tree → List Tree
  | node kind children => node kind children :: partsAll children
  | group delimiter content => group delimiter content :: partsAll content
  | leaf => [leaf]

/-- The parts of several trees. -/
def partsAll : List Tree → List Tree
  | [] => []
  | tree :: rest => tree.parts ++ partsAll rest

end

theorem partsAll_eq_flatMap (trees : List Tree) : partsAll trees = trees.flatMap parts := by
  induction trees with
  | nil => rfl
  | cons tree rest ih => rw [partsAll, List.flatMap_cons, ih]

theorem parts_leaf (h : tree.isLeaf = true) : tree.parts = [tree] := by
  cases tree with
  | node | group => cases h
  | _ => rfl

theorem parts_node (kind : Kind) (children : List Tree) :
    (node kind children).parts = node kind children :: children.flatMap parts := by
  rw [parts, partsAll_eq_flatMap]

theorem parts_group (delimiter : Delimiter) (content : List Tree) :
    (group delimiter content).parts = group delimiter content :: content.flatMap parts := by
  rw [parts, partsAll_eq_flatMap]

end Tree

end RouteRegistrar
