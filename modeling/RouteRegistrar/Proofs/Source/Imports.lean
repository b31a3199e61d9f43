import RouteRegistrar.Proofs.Source.Walk

/-!
# Imports of a module

An import tree is a way to write several imports at once. This module lists them one by one, each
with the name that it binds and its full path, and shows that the scope of a module is what they
make of an empty scope one after the other.

A path starts either at a name that no import changes, or at what the scope knows for its first
name. So two scopes that agree on all names resolve all paths alike.
-/

namespace RouteRegistrar

/-! ## Imports one by one -/

/-- An import of one name: the name that it binds, and the path that it stands for. -/
structure Import where
  name : String
  path : List String

namespace UseTree

mutual

/-- The imports of a tree from left to right. `front` holds the names in front of it. -/
def imports (front : List String) : UseTree → List Import
  | .path first tree => imports (front ++ [first]) tree
  | .name last =>
    if last = "self" then (front.getLast?.map (⟨·, front⟩)).toList
    else [⟨last, front ++ [last]⟩]
  | .rename last newName => [⟨newName, if last = "self" then front else front ++ [last]⟩]
  | .group trees => importsOfAll front trees
  | .glob => []

/-- The imports of several trees from left to right. -/
def importsOfAll (front : List String) : List UseTree → List Import
  | [] => []
  | tree :: rest => imports front tree ++ importsOfAll front rest

end

end UseTree

/-- Whether a path can be made absolute. `Self` is no module, so no import starts there. -/
def Import.isResolvable (found : Import) : Bool :=
  match found.path with
  | [] => false
  | first :: _ => first ≠ "Self"

/-- The imports of an item, in order. -/
def SourceItem.imports : SourceItem → List Import
  | .use rooted tree => (tree.imports (if rooted then [""] else [])).filter (·.isResolvable)
  | _ => []

/-- The names that an item imports. -/
def SourceItem.importedNames (item : SourceItem) : List String := item.imports.map (·.name)

theorem SourceItem.isResolvable_of_mem_imports {item : SourceItem} {found : Import}
    (h : found ∈ item.imports) : found.isResolvable = true := by
  cases item with
  | use rooted tree => exact (List.mem_filter.mp h).2
  | _ => cases h

/-! ## Absolute paths -/

/-- Paths that go on alike are alike. -/
theorem ItemPath.append_right_inj {path other : ItemPath} {segments : List String} :
    path.append segments = other.append segments ↔ path = other := by
  constructor
  · intro h
    obtain ⟨hroot, hsegments⟩ := ItemPath.mk.inj h
    obtain ⟨root, names⟩ := path
    obtain ⟨_, _⟩ := other
    cases hroot
    cases List.append_cancel_right hsegments
    rfl
  · rintro rfl
    rfl

namespace ModuleScope

variable {scope other : ModuleScope} {first name : String} {rest : List String}

/-- First names of a path that no import changes. An empty name stands for two colons in front. -/
def fixedNames : List String := ["", "crate", "self", "super", "Self"]

/-- What a name stands for if it is not imported: an item of the module, or else a name at the root
of all names. -/
def unimported (scope : ModuleScope) (name : String) : ItemPath :=
  if scope.declared.contains name then scope.path.append [name] else ⟨.everything, [name]⟩

/-- What a name stands for. -/
def meaning (scope : ModuleScope) (name : String) : ItemPath :=
  (scope.imported? name).getD (scope.unimported name)

/-- What a name stands for is imported, an item of the module, or a name at the root of all
names. -/
theorem meaning_cases {holds : ItemPath → Prop} (himported : ∀ entry ∈ scope.imports, holds entry.2)
    (hdeclared : holds (scope.path.append [name])) (hunknown : holds ⟨.everything, [name]⟩) :
    holds (scope.meaning name) := by
  rw [meaning]
  -- An import wins over an item of the module, and this over a name of all.
  cases hfound : scope.imported? name with
  | some found =>
    obtain ⟨entry, hentry, rfl⟩ := Option.map_eq_some_iff.mp hfound
    exact himported entry (List.mem_of_find?_eq_some hentry)
  | none =>
    rw [Option.getD_none, unimported]
    split
    case isTrue => exact hdeclared
    case isFalse => exact hunknown

/-- A path that starts at a name of the module goes on from what the name stands for. -/
theorem absolute?_of_not_fixed (h : first ∉ fixedNames) :
    scope.absolute? (first :: rest) = some ((scope.meaning first).append rest) := by
  simp only [fixedNames, List.mem_cons, List.not_mem_nil, or_false, not_or] at h
  obtain ⟨hroot, hcrate, hself, hsuper, hown⟩ := h
  rw [absolute?, if_neg hroot, if_neg hcrate, if_neg hself, if_neg hsuper, if_neg hown, meaning,
    unimported]
  cases scope.imported? first with
  | some found => rfl
  | none =>
    -- What is not imported is an item of the module, or a name at the root of all names.
    by_cases hdeclared : first ∈ scope.declared <;> simp [hdeclared, ItemPath.append]

/-- A path that starts at a fixed name depends on the place of the module only. -/
theorem absolute?_of_fixed (h : first ∈ fixedNames) (hpath : other.path = scope.path) :
    other.absolute? (first :: rest) = scope.absolute? (first :: rest) := by
  simp only [fixedNames, List.mem_cons, List.not_mem_nil, or_false] at h
  rcases h with rfl | rfl | rfl | rfl | rfl <;> simp [absolute?, hpath]

theorem isSome_absolute?_iff (scope : ModuleScope) (found : Import) :
    (scope.absolute? found.path).isSome = true ↔ found.isResolvable = true := by
  obtain ⟨name, path⟩ := found
  cases path with
  | nil => simp [absolute?, Import.isResolvable]
  | cons first rest =>
    -- The only first names that lead nowhere are no name at all and `Self`.
    by_cases hfixed : first ∈ fixedNames
    · simp only [fixedNames, List.mem_cons, List.not_mem_nil, or_false] at hfixed
      rcases hfixed with rfl | rfl | rfl | rfl | rfl <;> simp [absolute?, Import.isResolvable]
    · have hown : first ≠ "Self" := by
        rintro rfl
        exact hfixed (by decide)
      simp [absolute?_of_not_fixed hfixed, Import.isResolvable, hown]

/-! ## Scopes that agree -/

/-- Two scopes know the same names, and these stand for the same. -/
structure Agrees (scope other : ModuleScope) : Prop where
  path : other.path = scope.path
  declared : ∀ name, other.declared.contains name = scope.declared.contains name
  imported : ∀ name, other.imported? name = scope.imported? name

theorem Agrees.trans {last : ModuleScope} (h : scope.Agrees other) (hlast : other.Agrees last) :
    scope.Agrees last :=
  ⟨hlast.path.trans h.path, fun name => (hlast.declared name).trans (h.declared name),
    fun name => (hlast.imported name).trans (h.imported name)⟩

/-- Names stand for the same where nothing is imported. -/
theorem unimported_congr (hpath : other.path = scope.path)
    (hdeclared : ∀ name, other.declared.contains name = scope.declared.contains name)
    (name : String) : other.unimported name = scope.unimported name := by
  rw [unimported, unimported, hpath, hdeclared]

/-- Scopes that agree make the same paths absolute. -/
theorem Agrees.absolute? (h : scope.Agrees other) (names : List String) :
    other.absolute? names = scope.absolute? names := by
  cases names with
  | nil => rfl
  | cons first rest =>
    by_cases hfixed : first ∈ fixedNames
    · exact absolute?_of_fixed hfixed h.path
    · rw [absolute?_of_not_fixed hfixed, absolute?_of_not_fixed hfixed, meaning, meaning,
        h.imported, unimported_congr h.path h.declared]

/-- Scopes that agree resolve the same paths alike. -/
theorem Agrees.resolve? (h : scope.Agrees other) (names : List String) :
    other.resolve? names = scope.resolve? names := by
  cases names with
  | nil => rfl
  | cons first rest =>
    have hknows : other.knows first = scope.knows first := by
      rw [knows, knows, h.imported, h.declared]
    rw [ModuleScope.resolve?, ModuleScope.resolve?, hknows, h.absolute?]

/-! ## Adding imports -/

/-- Adds an import. -/
def bind (scope : ModuleScope) (found : Import) : ModuleScope :=
  scope.addImport (some found.name) found.path

theorem path_bind (found : Import) : (scope.bind found).path = scope.path := path_addImport ..

theorem declared_bind (found : Import) : (scope.bind found).declared = scope.declared := by
  unfold bind addImport
  split <;> rfl

/-- The new name stands for its path as the scope has known it before, all other names are left as
they are. -/
theorem imported?_bind {found : Import} (h : found.isResolvable = true) (name : String) :
    (scope.bind found).imported? name =
      if found.name = name then scope.absolute? found.path else scope.imported? name := by
  obtain ⟨target, htarget⟩ := Option.isSome_iff_exists.mp ((isSome_absolute?_iff scope found).mpr h)
  simp only [bind, addImport, htarget]
  by_cases hname : found.name = name
  · simp [imported?, hname]
  · simp [imported?, hname]

/-- A path that cannot be made absolute is no import. -/
theorem bind_of_not_resolvable {found : Import} (h : found.isResolvable = false) :
    scope.bind found = scope := by
  have hnone : scope.absolute? found.path = none := by
    rw [← Option.not_isSome_iff_eq_none, isSome_absolute?_iff, h]
    exact Bool.false_ne_true
  simp only [bind, addImport, hnone]

theorem foldl_bind_filter (scope : ModuleScope) (found : List Import) :
    (found.filter (·.isResolvable)).foldl bind scope = found.foldl bind scope := by
  induction found generalizing scope with
  | nil => rfl
  | cons first rest ih =>
    cases hfirst : first.isResolvable with
    | true => rw [List.filter_cons_of_pos hfirst, List.foldl_cons, List.foldl_cons, ih]
    -- An import that leads nowhere binds nothing.
    | false =>
      rw [List.filter_cons_of_neg (by simp [hfirst]), List.foldl_cons,
        bind_of_not_resolvable hfirst, ih]

mutual

/-- A tree adds its imports one by one. -/
theorem addImports_eq_foldl (scope : ModuleScope) (front : List String) (tree : UseTree) :
    scope.addImports front tree = (tree.imports front).foldl bind scope :=
  match tree with
  | .path name inner => addImports_eq_foldl scope (front ++ [name]) inner
  | .name name => by
    rw [addImports, UseTree.imports]
    split
    case isTrue =>
      -- `self` imports the module that is named in front, if there is one.
      cases hlast : front.getLast? with
      | none => rfl
      | some last => rfl
    case isFalse => rfl
  | .rename name newName => rfl
  | .group trees => addAllImports_eq_foldl scope front trees
  | .glob => rfl

/-- Several trees add their imports one by one. -/
theorem addAllImports_eq_foldl (scope : ModuleScope) (front : List String) (trees : List UseTree) :
    scope.addAllImports front trees = (UseTree.importsOfAll front trees).foldl bind scope :=
  match trees with
  | [] => rfl
  | tree :: rest => by
    rw [addAllImports, UseTree.importsOfAll, List.foldl_append,
      addImports_eq_foldl scope front tree, addAllImports_eq_foldl _ front rest]

end

/-- An item adds its imports one by one. -/
theorem addItem_eq_foldl (scope : ModuleScope) (item : SourceItem) :
    scope.addItem item = item.imports.foldl bind scope := by
  cases item with
  | use rooted tree =>
    rw [addItem, addImports_eq_foldl, SourceItem.imports, foldl_bind_filter]
  | _ => rfl

/-! ## Several imports -/

variable {found : List Import}

theorem path_foldl_bind (scope : ModuleScope) (found : List Import) :
    (found.foldl bind scope).path = scope.path := by
  induction found generalizing scope with
  | nil => rfl
  | cons first rest ih => rw [List.foldl_cons, ih, path_bind]

theorem declared_foldl_bind (scope : ModuleScope) (found : List Import) :
    (found.foldl bind scope).declared = scope.declared := by
  induction found generalizing scope with
  | nil => rfl
  | cons first rest ih => rw [List.foldl_cons, ih, declared_bind]

/-- A name that is not imported stands for what it stood for. -/
theorem imported?_foldl_bind_of_not_mem (scope : ModuleScope)
    (hresolvable : ∀ i ∈ found, i.isResolvable = true) (hname : name ∉ found.map (·.name)) :
    (found.foldl bind scope).imported? name = scope.imported? name := by
  induction found generalizing scope with
  | nil => rfl
  | cons first rest ih =>
    rw [List.map_cons, List.mem_cons, not_or] at hname
    rw [List.foldl_cons, ih _ (fun i hi => hresolvable i (List.mem_cons_of_mem _ hi)) hname.2,
      imported?_bind (hresolvable first List.mem_cons_self), if_neg (Ne.symm hname.1)]

/-- Where no name is imported twice, each of them stands for its path, as the imports in front of it
have made it. -/
theorem imported?_foldl_bind_of_split {before after : List Import} {i : Import}
    (scope : ModuleScope) (hresolvable : ∀ j ∈ before ++ i :: after, j.isResolvable = true)
    (hname : i.name ∉ after.map (·.name)) :
    ((before ++ i :: after).foldl bind scope).imported? i.name =
      (before.foldl bind scope).absolute? i.path := by
  rw [List.foldl_append, List.foldl_cons, imported?_foldl_bind_of_not_mem _ ?_ hname,
    imported?_bind (hresolvable i (by simp)), if_pos rfl]
  intro j hj
  exact hresolvable j (by simp [hj])

/-- Scopes that agree still do so behind the same imports. -/
theorem Agrees.foldl_bind (h : scope.Agrees other)
    (hresolvable : ∀ i ∈ found, i.isResolvable = true) :
    (found.foldl bind scope).Agrees (found.foldl bind other) := by
  induction found generalizing scope other with
  | nil => exact h
  | cons first rest ih =>
    rw [List.foldl_cons, List.foldl_cons]
    -- One import is resolved alike in both scopes, so they agree about its name again.
    refine ih ⟨?_, ?_, ?_⟩ fun i hi => hresolvable i (List.mem_cons_of_mem _ hi)
    · rw [path_bind, path_bind, h.path]
    · intro name
      rw [declared_bind, declared_bind, h.declared]
    · intro name
      have hfirst := hresolvable first List.mem_cons_self
      rw [imported?_bind hfirst, imported?_bind hfirst, h.absolute?, h.imported]

/-- Scopes that agree still do so behind the same items. -/
theorem Agrees.foldl_addItem (h : scope.Agrees other) (items : List SourceItem) :
    (items.foldl addItem scope).Agrees (items.foldl addItem other) := by
  induction items generalizing scope other with
  | nil => exact h
  | cons item rest ih =>
    rw [List.foldl_cons, List.foldl_cons]
    apply ih
    rw [addItem_eq_foldl, addItem_eq_foldl]
    exact h.foldl_bind fun _ hi => SourceItem.isResolvable_of_mem_imports hi

end ModuleScope

end RouteRegistrar
