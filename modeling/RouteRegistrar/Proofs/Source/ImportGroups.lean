import RouteRegistrar.Proofs.Source.Imports

/-!
# Groups of imports

A group is a way to write several imports with a common front. Written out, each leaf of a tree
becomes an import of its own, with the whole path in front of it; a leaf `self` becomes an import of
the path that it stands behind. This module shows that a module knows the same names either way, so
how imports are grouped does not matter.

A leaf `self` may not stand behind another `self`: `a::self::{self}` imports `a` under the name
`self`, and no import without a group does so.
-/

namespace RouteRegistrar

namespace UseTree

variable {front names : List String} {last : String}

/-! ## Writing groups out -/

/-- A tree behind some names. -/
def behind (names : List String) (tree : UseTree) : UseTree := names.foldr .path tree

/-- An import of a whole path, whose last name becomes the leaf. An empty path has no such name, and
`self` stays. -/
def ofWholePath (leaf : String → UseTree) (names : List String) : UseTree :=
  match names.getLast? with
  | some last => behind names.dropLast (leaf last)
  | none => leaf "self"

mutual

/-- The trees without groups that a tree stands for, one for each leaf from left to right. `front`
holds the names in front of the tree. -/
def ungrouped (front : List String) : UseTree → List UseTree
  | .path first tree => ungrouped (front ++ [first]) tree
  | .name last => [if last = "self" then ofWholePath .name front else behind front (.name last)]
  | .rename last newName =>
    [if last = "self" then ofWholePath (.rename · newName) front
      else behind front (.rename last newName)]
  | .group trees => ungroupedAll front trees
  | .glob => [behind front .glob]

/-- The trees without groups that several trees stand for, from left to right. -/
def ungroupedAll (front : List String) : List UseTree → List UseTree
  | [] => []
  | tree :: rest => ungrouped front tree ++ ungroupedAll front rest

end

/-- Whether a tree is a path with a leaf and no group. -/
def isUngrouped : UseTree → Bool
  | .path _ tree => tree.isUngrouped
  | .group _ => false
  | _ => true

mutual

/-- No leaf `self` stands behind a path that ends in `self`. `front` holds the names in front of the
tree. -/
def NamesSelfOnce (front : List String) : UseTree → Prop
  | .path first tree => NamesSelfOnce (front ++ [first]) tree
  | .name last => last = "self" → front.getLast? ≠ some "self"
  | .rename last _ => last = "self" → front.getLast? ≠ some "self"
  | .group trees => NameSelfOnce front trees
  | .glob => True

/-- No leaf `self` of several trees stands behind a path that ends in `self`. -/
def NameSelfOnce (front : List String) : List UseTree → Prop
  | [] => True
  | tree :: rest => NamesSelfOnce front tree ∧ NameSelfOnce front rest

end

/-! ## No groups are left -/

theorem isUngrouped_behind {tree : UseTree} (h : tree.isUngrouped = true) (names : List String) :
    (behind names tree).isUngrouped = true := by
  induction names with
  | nil => exact h
  | cons name rest ih => exact ih

theorem isUngrouped_ofWholePath {leaf : String → UseTree}
    (h : ∀ name, (leaf name).isUngrouped = true) (names : List String) :
    (ofWholePath leaf names).isUngrouped = true := by
  unfold ofWholePath
  split
  case h_1 last hlast => exact isUngrouped_behind (h last) _
  case h_2 => exact h "self"

mutual

theorem isUngrouped_of_mem_ungrouped (front : List String) (tree : UseTree) :
    ∀ flat ∈ tree.ungrouped front, flat.isUngrouped = true :=
  match tree with
  | .path first inner => isUngrouped_of_mem_ungrouped (front ++ [first]) inner
  | .name last => by
    rw [ungrouped, List.forall_mem_singleton]
    -- `self` in the end stands for the names in front; any other name stays where it is.
    split
    case isTrue => exact isUngrouped_ofWholePath (fun _ => rfl) front
    case isFalse => exact isUngrouped_behind rfl front
  | .rename last newName => by
    rw [ungrouped, List.forall_mem_singleton]
    split
    case isTrue => exact isUngrouped_ofWholePath (fun _ => rfl) front
    case isFalse => exact isUngrouped_behind rfl front
  | .group trees => isUngrouped_of_mem_ungroupedAll front trees
  | .glob => by
    rw [ungrouped, List.forall_mem_singleton]
    exact isUngrouped_behind rfl front

theorem isUngrouped_of_mem_ungroupedAll (front : List String) (trees : List UseTree) :
    ∀ flat ∈ ungroupedAll front trees, flat.isUngrouped = true :=
  match trees with
  | [] => nofun
  | tree :: rest => List.forall_mem_append.mpr
    ⟨isUngrouped_of_mem_ungrouped front tree, isUngrouped_of_mem_ungroupedAll front rest⟩

end

/-! ## The imports stay -/

/-- Names in front of a tree are in front of its imports. -/
theorem imports_behind (front names : List String) (tree : UseTree) :
    (behind names tree).imports front = tree.imports (front ++ names) := by
  induction names generalizing front with
  | nil => rw [List.append_nil]; rfl
  | cons name rest ih =>
    rw [behind, List.foldr_cons, imports, ← behind, ih, List.append_assoc]
    rfl

/-- A leaf imports its whole path, and so does `self` behind this path. -/
theorem imports_ofWholePath {leaf : String → UseTree}
    (hleaf : ∀ front last, last ≠ "self" →
      (leaf last).imports front = (leaf "self").imports (front ++ [last]))
    (front : List String) (h : names.getLast? ≠ some "self") :
    (ofWholePath leaf names).imports front = (leaf "self").imports (front ++ names) := by
  -- The last name in front becomes the leaf, and the names before it stay in front.
  rcases List.eq_nil_or_concat names with rfl | ⟨before, last, rfl⟩
  · rw [List.append_nil]
    rfl
  · rw [List.concat_eq_append] at h ⊢
    have hlast : last ≠ "self" := by
      rintro rfl
      exact h List.getLast?_concat
    rw [ofWholePath, List.getLast?_concat, List.dropLast_concat]
    simp only
    rw [imports_behind, hleaf _ _ hlast, List.append_assoc]

theorem imports_name_of_ne (front : List String) (h : last ≠ "self") :
    (name last).imports front = (name "self").imports (front ++ [last]) := by
  rw [imports, if_neg h, imports, if_pos rfl, List.getLast?_concat]
  rfl

theorem imports_rename_of_ne (newName : String) (front : List String) (h : last ≠ "self") :
    (rename last newName).imports front = (rename "self" newName).imports (front ++ [last]) := by
  rw [imports, if_neg h, imports, if_pos rfl]

mutual

/-- Writing the groups out keeps the imports and their order. -/
theorem flatMap_imports_ungrouped (front : List String) (names : List String) (tree : UseTree)
    (h : tree.NamesSelfOnce names) :
    (tree.ungrouped names).flatMap (imports front) = tree.imports (front ++ names) :=
  match tree with
  | .path first inner => by
    rw [ungrouped, imports, flatMap_imports_ungrouped front (names ++ [first]) inner h,
      List.append_assoc]
  | .name last => by
    rw [ungrouped, List.flatMap_singleton]
    -- Here the hypothesis is needed: the names in front must not end in `self` already.
    split
    case isTrue hself =>
      subst hself
      exact imports_ofWholePath (fun _ _ => imports_name_of_ne _) front (h rfl)
    case isFalse => exact imports_behind front names _
  | .rename last newName => by
    rw [ungrouped, List.flatMap_singleton]
    split
    case isTrue hself =>
      subst hself
      exact imports_ofWholePath (fun _ _ => imports_rename_of_ne newName _) front (h rfl)
    case isFalse => exact imports_behind front names _
  | .group trees => flatMap_imports_ungroupedAll front names trees h
  | .glob => by
    rw [ungrouped, List.flatMap_singleton]
    exact imports_behind front names _

theorem flatMap_imports_ungroupedAll (front : List String) (names : List String)
    (trees : List UseTree) (h : NameSelfOnce names trees) :
    (ungroupedAll names trees).flatMap (imports front) = importsOfAll (front ++ names) trees :=
  match trees with
  | [] => rfl
  | tree :: rest => by
    rw [ungroupedAll, List.flatMap_append, importsOfAll,
      flatMap_imports_ungrouped front names tree h.1,
      flatMap_imports_ungroupedAll front names rest h.2]

end

end UseTree

/-! ## Modules -/

/-- The imports without groups that an import stands for. -/
def UseTree.ungroupedItems (rooted : Bool) (tree : UseTree) : List SourceItem :=
  (tree.ungrouped []).map (.use rooted)

namespace ModuleScope

/-- A scope knows the same names behind an import and behind the same import without groups. -/
theorem foldl_addItem_ungroupedItems (scope : ModuleScope) (rooted : Bool) {tree : UseTree}
    (h : tree.NamesSelfOnce []) :
    (tree.ungroupedItems rooted).foldl addItem scope = scope.addItem (.use rooted tree) := by
  have himports := tree.flatMap_imports_ungrouped (if rooted then [""] else []) [] h
  rw [List.append_nil] at himports
  simp only [UseTree.ungroupedItems, List.foldl_map, addItem, addImports_eq_foldl]
  rw [← himports, List.foldl_flatMap]

/-- **Groups of imports do not matter**: writing the groups of a tree out leaves imports without
groups, and a module that has these in place of the tree has the same scope, whatever it knows in
front of them and whatever stands around them. -/
theorem addItem_ungrouped (rooted : Bool) (tree : UseTree) (h : tree.NamesSelfOnce []) :
    (∀ flat ∈ tree.ungrouped [], flat.isUngrouped = true) ∧
    (∀ scope : ModuleScope,
      (tree.ungroupedItems rooted).foldl addItem scope = scope.addItem (.use rooted tree)) ∧
    ∀ (path : ItemPath) (before after : List SourceItem),
      ofItems path (before ++ tree.ungroupedItems rooted ++ after) =
        ofItems path (before ++ .use rooted tree :: after) := by
  refine ⟨tree.isUngrouped_of_mem_ungrouped [],
    fun scope => foldl_addItem_ungroupedItems scope rooted h, fun path before after => ?_⟩
  -- An import declares no item, so both modules declare the same names.
  have hdeclared : (tree.ungroupedItems rooted).filterMap declaredName? = [] := by
    simp [UseTree.ungroupedItems, declaredName?]
  have hitems : (before ++ tree.ungroupedItems rooted ++ after).filterMap declaredName? =
      (before ++ .use rooted tree :: after).filterMap declaredName? := by
    rw [List.filterMap_append, List.filterMap_append, hdeclared, List.append_nil,
      List.filterMap_append, List.filterMap_cons_none rfl]
  rw [ofItems, ofItems, hitems, List.foldl_append, List.foldl_append,
    foldl_addItem_ungroupedItems _ rooted h, List.foldl_append, List.foldl_cons]

/-- A rooted import with groups inside a group, a leaf `self` under its own and under a new name,
and a glob. -/
theorem addItem_ungrouped_of_nested_groups :
    let tree : UseTree := .path "net" (.group [.name "self", .glob,
      .path "http" (.group [.rename "self" "web", .rename "Client" "Web", .name "Server"])])
    tree.NamesSelfOnce [] ∧
    tree.ungrouped [] = [.name "net", .path "net" .glob, .path "net" (.rename "http" "web"),
      .path "net" (.path "http" (.rename "Client" "Web")),
      .path "net" (.path "http" (.name "Server"))] ∧
    ∀ scope : ModuleScope,
      (tree.ungroupedItems true).foldl addItem scope = scope.addItem (.use true tree) := by
  intro tree
  have hself : tree.NamesSelfOnce [] := by
    simp [tree, UseTree.NamesSelfOnce, UseTree.NameSelfOnce]
  exact ⟨hself, rfl, (addItem_ungrouped true tree hself).2.1⟩

end ModuleScope

end RouteRegistrar
