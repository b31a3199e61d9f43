import RouteRegistrar.Proofs.Grammar.ProperCode
import RouteRegistrar.Source.Scan

/-!
# The types of parameters

What a scan qualifies are the types of the parameters of methods. All of them are proper, since
they are parts of a parsed file.
-/

namespace RouteRegistrar

/-! ## Parameters of methods -/

namespace SourceItem

mutual

/-- The methods in an item, those in a module that has its items in place included. -/
def methods : SourceItem → List SourceMethod
  | block content => content.methods
  | inlineModule _ _ items => methodsAll items
  | _ => []

/-- The methods in some items. -/
def methodsAll : List SourceItem → List SourceMethod
  | [] => []
  | item :: rest => item.methods ++ methodsAll rest

end

theorem methodsAll_eq_flatMap (items : List SourceItem) :
    methodsAll items = items.flatMap methods := by
  induction items with
  | nil => rfl
  | cons item rest ih => rw [methodsAll, ih, List.flatMap_cons]

/-- The parameters of all methods in an item have proper types. -/
def HasProperTypes (item : SourceItem) : Prop :=
  ∀ method ∈ item.methods, ∀ parameter ∈ method.parameters, parameter.type.IsProper

end SourceItem

namespace Tree

theorem mem_of_mem_everySecond {tree : Tree} {trees : List Tree} (h : tree ∈ everySecond trees) :
    tree ∈ trees := by
  fun_induction everySecond trees with
  | case1 => exact h
  | case2 => exact h
  | case3 first second rest ih =>
    rcases List.mem_cons.mp h with rfl | h
    · exact List.mem_cons_self
    · exact List.mem_cons_of_mem _ (List.mem_cons_of_mem _ (ih h))

theorem sourceItems_eq_map (trees : List Tree) : sourceItems trees = trees.map sourceItem := by
  induction trees with
  | nil => rfl
  | cons tree rest ih => rw [sourceItems, ih, List.map_cons]

instance {tree : Tree} [h : Proper tree] : Proper tree.items := by
  unfold items
  split
  case h_1 children =>
    have hchildren := Proper.forall_iff.mp (Proper.node_iff.mp h).2
    exact Proper.forall_iff.mpr fun tree htree => hchildren tree (mem_of_mem_everySecond htree)
  case h_2 => infer_instance

/-- The type of a parameter is part of it. -/
theorem isProper_of_sourceParameter? {tree : Tree} {parameter : SourceParameter} (h : Proper tree)
    (hparameter : tree.sourceParameter? = some parameter) : parameter.type.IsProper := by
  unfold sourceParameter? at hparameter
  split at hparameter <;> cases hparameter
  simp only [Proper.node_iff, Proper.cons_iff] at h
  exact Proper.tree_iff.mp h.2.2.2.2.1

theorem isProper_of_sourceMethod? {tree : Tree} {method : SourceMethod} (h : Proper tree)
    (hmethod : tree.sourceMethod? = some method) :
    ∀ parameter ∈ method.parameters, parameter.type.IsProper := by
  unfold sourceMethod? at hmethod
  split at hmethod <;> cases hmethod
  intro parameter hparameter
  obtain ⟨found, hfound, hparameter⟩ := List.mem_filterMap.mp hparameter
  obtain ⟨inputs, hinputs, hfound⟩ := List.mem_flatMap.mp hfound
  -- The lists of parameters stand in the brackets of the signature.
  simp only [Proper.node_iff, Proper.cons_iff] at h
  have hbrackets := h.2.2.2.2.1.2.2.2.2.2.2.2.2.1
  have hlist := Proper.list_iff.mp (inferInstanceAs (Proper (Tree.children _))) inputs hinputs
  exact isProper_of_sourceParameter? (Proper.list_iff.mp inferInstance found hfound) hparameter

/-- The types of parameters in an item are proper if the item is. The members of a module are
children of its braces, so the induction carries what holds of children along. -/
theorem hasProperTypes_sourceItem (tree : Tree) :
    (tree.IsProper → tree.sourceItem.HasProperTypes) ∧
      ∀ child ∈ tree.children, child.IsProper → child.sourceItem.HasProperTypes := by
  induction tree using inductionOn with
  | leaf tree hleaf =>
    cases tree with
    | node | group => cases hleaf
    | _ => exact ⟨fun _ => nofun, nofun⟩
  | group delimiter content ih => exact ⟨fun _ => nofun, fun child hchild => (ih child hchild).1⟩
  | node kind children ih =>
    refine ⟨fun h => ?_, fun child hchild => (ih child hchild).1⟩
    unfold sourceItem
    split
    case h_1 braces own members heq =>
      -- The members of a module stand in its braces, behind its attributes.
      cases heq
      intro method hmethod
      rw [SourceItem.methods, sourceItems_eq_map, SourceItem.methodsAll_eq_flatMap,
        List.flatMap_map] at hmethod
      obtain ⟨member, hmember, hmethod⟩ := List.mem_flatMap.mp hmethod
      have hbraces := h.of_mem_node (by simp : group braces (own :: members) ∈ _)
      have hbelow := (ih (group braces (own :: members)) (by simp)).2
      have hmember : member ∈ own :: members := List.mem_cons_of_mem _ hmember
      exact hbelow member hmember (hbraces.of_mem_group hmember) method hmethod
    case h_5 braces own members heq =>
      -- A block of a type has its methods in its braces; other blocks are ignored.
      cases heq
      split
      case isTrue =>
        intro method hmethod
        obtain ⟨member, hmember, hmethod⟩ := List.mem_filterMap.mp hmethod
        have hbraces := h.of_mem_node (by simp : group braces (own :: members) ∈ _)
        have hproper := hbraces.of_mem_group (List.mem_cons_of_mem _ hmember)
        exact isProper_of_sourceMethod? (Proper.tree_iff.mpr hproper) hmethod
      case isFalse => exact nofun
    case h_6 => split <;> exact nofun
    all_goals exact nofun

end Tree

/-- **The types of all parameters in a source text are proper.** -/
theorem SourceItem.hasProperTypes_of_ofText? {text : String} {items : List SourceItem}
    (h : ofText? text = some items) : ∀ item ∈ items, item.HasProperTypes := by
  obtain ⟨tree, htree, rfl⟩ := Option.map_eq_some_iff.mp h
  have hproper := Grammar.isProper_of_ofSource? htree
  unfold Tree.fileItems
  split
  case h_1 members =>
    rw [Tree.sourceItems_eq_map, List.forall_mem_map]
    intro member hmember
    exact member.hasProperTypes_sourceItem.1
      (hproper.of_mem_node (List.mem_cons_of_mem _ hmember))
  case h_2 => exact nofun

/-- Whatever file a scan reads, the types that it qualifies are proper. -/
theorem FileStore.hasProperTypes_of_readItems {store : FileStore} {path : FilePath}
    {items : List SourceItem} (h : store.readItems path = .ok items) :
    ∀ item ∈ items, item.HasProperTypes := by
  unfold readItems at h
  split at h
  case h_1 => cases h
  case h_2 =>
    split at h <;> cases h
    case h_1 hitems => exact SourceItem.hasProperTypes_of_ofText? hitems

end RouteRegistrar
