import Mathlib.Data.List.Induction
import Mathlib.Data.List.Nodup
import Mathlib.Data.List.Pairwise
import RouteRegistrar.Proofs.Source.Imports

/-!
# The order of imports

The imports of a module are added in order, and each path is made absolute with the names that have
been added before it. So the order matters where a path starts at a name that another item imports:
in front of that item the name is taken for one of the module or of the root of all names.

This module says exactly when the order is irrelevant, given that no name is imported twice: no item
may change what a name stands for at which a path of another item starts. Then each item means what
it means alone, and the scope collects what the items mean alone.
-/

namespace RouteRegistrar

namespace ModuleScope

variable {start base scope : ModuleScope} {items front others : List SourceItem}
  {item last : SourceItem} {first name : String} {rest : List String}

/-- The scope of a module before its imports are added. -/
def beforeImports (path : ItemPath) (items : List SourceItem) : ModuleScope :=
  ⟨path, [], items.filterMap declaredName?⟩

/-- An item changes no name at which a path of another item starts. -/
def LeavesPaths (start : ModuleScope) (item reader : SourceItem) : Prop :=
  ∀ i ∈ reader.imports, ∀ first rest, i.path = first :: rest → first ∉ fixedNames →
    (start.addItem item).meaning first = start.meaning first

/-- Neither of two items changes a name at which a path of the other one starts. -/
def Independent (start : ModuleScope) (item reader : SourceItem) : Prop :=
  start.LeavesPaths item reader ∧ start.LeavesPaths reader item

theorem Independent.symm (h : start.Independent item last) : start.Independent last item :=
  ⟨h.2, h.1⟩

/-! ## Items one after the other -/

/-- The imports of several items are added one by one. -/
theorem foldl_addItem_eq_foldl (scope : ModuleScope) (items : List SourceItem) :
    items.foldl addItem scope = (items.flatMap (·.imports)).foldl bind scope := by
  rw [List.foldl_flatMap]
  congr 1
  funext scope item
  exact addItem_eq_foldl scope item

theorem path_foldl_addItem (scope : ModuleScope) (items : List SourceItem) :
    (items.foldl addItem scope).path = scope.path := by
  rw [foldl_addItem_eq_foldl, path_foldl_bind]

theorem declared_foldl_addItem (scope : ModuleScope) (items : List SourceItem) :
    (items.foldl addItem scope).declared = scope.declared := by
  rw [foldl_addItem_eq_foldl, declared_foldl_bind]

/-- The scope of a module behind some imports. -/
def withImports (path : ItemPath) (items : List SourceItem) (found : List Import) : ModuleScope :=
  found.foldl bind (beforeImports path items)

theorem ofItems_eq_withImports (path : ItemPath) (items : List SourceItem) :
    ofItems path items = withImports path items (items.flatMap (·.imports)) :=
  foldl_addItem_eq_foldl (beforeImports path items) items

theorem path_withImports (path : ItemPath) (items : List SourceItem) (found : List Import) :
    (withImports path items found).path = path := path_foldl_bind _ found

theorem declared_withImports (path : ItemPath) (items : List SourceItem) (found : List Import) :
    (withImports path items found).declared = items.filterMap declaredName? :=
  declared_foldl_bind _ found

theorem isResolvable_of_mem_flatMap {i : Import} (h : i ∈ items.flatMap (·.imports)) :
    i.isResolvable = true := by
  obtain ⟨item, -, hi⟩ := List.mem_flatMap.mp h
  exact SourceItem.isResolvable_of_mem_imports hi

theorem name_mem_importedNames {i : Import} (h : i ∈ items.flatMap (·.imports)) :
    i.name ∈ items.flatMap (·.importedNames) := by
  obtain ⟨item, hitem, hi⟩ := List.mem_flatMap.mp h
  exact List.mem_flatMap.mpr ⟨item, hitem, List.mem_map_of_mem hi⟩

/-- A name that no item imports stands for what it stood for. -/
theorem imported?_foldl_addItem_of_not_mem (scope : ModuleScope) (items : List SourceItem)
    (hname : name ∉ items.flatMap (·.importedNames)) :
    (items.foldl addItem scope).imported? name = scope.imported? name := by
  rw [foldl_addItem_eq_foldl]
  apply imported?_foldl_bind_of_not_mem
  · intro i hi
    obtain ⟨item, -, hi⟩ := List.mem_flatMap.mp hi
    exact SourceItem.isResolvable_of_mem_imports hi
  · rwa [List.map_flatMap]

/-- A name that is not imported has no import in the scope. -/
theorem imported?_ofItems_of_not_mem {path : ItemPath}
    (h : name ∉ items.flatMap (·.importedNames)) :
    (ofItems path items).imported? name = none :=
  imported?_foldl_addItem_of_not_mem (beforeImports path items) items h

theorem imported?_addItem_of_not_mem (scope : ModuleScope) (hname : name ∉ item.importedNames) :
    (scope.addItem item).imported? name = scope.imported? name := by
  apply imported?_foldl_addItem_of_not_mem scope [item]
  simpa using hname

/-- A path that starts at a name which its own item does not import goes on from what the name stood
for in front of the item. -/
theorem imported?_addItem_of_first (scope : ModuleScope) (hdistinct : item.importedNames.Nodup)
    {i : Import} (hi : i ∈ item.imports) (hpath : i.path = first :: rest)
    (hfixed : first ∉ fixedNames) (hfirst : first ∉ item.importedNames) :
    (scope.addItem item).imported? i.name = some ((scope.meaning first).append rest) := by
  obtain ⟨before, after, hsplit⟩ := List.append_of_mem hi
  have hresolvable : ∀ j ∈ before ++ i :: after, j.isResolvable = true := by
    intro j hj
    exact SourceItem.isResolvable_of_mem_imports (hsplit ▸ hj)
  rw [SourceItem.importedNames, hsplit, List.map_append, List.map_cons] at hdistinct hfirst
  rw [List.nodup_middle, List.nodup_cons] at hdistinct
  have hafter : i.name ∉ after.map (·.name) :=
    fun hmem => hdistinct.1 (List.mem_append_right _ hmem)
  have hbefore : first ∉ before.map (·.name) :=
    fun hmem => hfirst (List.mem_append_left _ hmem)
  rw [addItem_eq_foldl, hsplit, imported?_foldl_bind_of_split scope hresolvable hafter, hpath,
    absolute?_of_not_fixed hfixed]
  -- The imports in front of this one leave the name alone.
  congr 2
  rw [meaning, meaning, imported?_foldl_bind_of_not_mem scope
      (fun j hj => hresolvable j (List.mem_append_left _ hj)) hbefore,
    unimported_congr (path_foldl_bind scope before) (fun _ => by rw [declared_foldl_bind])]

/-! ## What items mean alone -/

/-- The imports of a scope with those of another one behind them, as if they had been added to
it. -/
def onTopOf (scope base : ModuleScope) : ModuleScope :=
  { scope with imports := scope.imports ++ base.imports }

theorem imported?_onTopOf (scope base : ModuleScope) (name : String) :
    (scope.onTopOf base).imported? name = (scope.imported? name).or (base.imported? name) := by
  rw [imported?, onTopOf, List.find?_append, Option.map_or]
  rfl

/-- An import that starts at no name of the scope below means the same without it. -/
theorem bind_onTopOf {found : Import}
    (hbase : ∀ first rest, found.path = first :: rest → first ∉ fixedNames →
      (base.imported? first).getD (scope.unimported first) = scope.unimported first) :
    (scope.onTopOf base).bind found = (scope.bind found).onTopOf base := by
  -- What the base imports under the first name is what that name means without it.
  have habsolute : (scope.onTopOf base).absolute? found.path = scope.absolute? found.path := by
    cases hpath : found.path with
    | nil => rfl
    | cons first rest =>
      by_cases hfixed : first ∈ fixedNames
      · exact absolute?_of_fixed hfixed rfl
      · have hmeaning : (scope.onTopOf base).meaning first = scope.meaning first := by
          rw [meaning, meaning, imported?_onTopOf]
          cases scope.imported? first with
          | some target => rfl
          | none => exact hbase first rest hpath hfixed
        rw [absolute?_of_not_fixed hfixed, absolute?_of_not_fixed hfixed, hmeaning]
  simp only [bind, addImport, habsolute]
  cases scope.absolute? found.path <;> rfl

theorem foldl_bind_onTopOf {found : List Import}
    (hbase : ∀ i ∈ found, ∀ first rest, i.path = first :: rest → first ∉ fixedNames →
      (base.imported? first).getD (scope.unimported first) = scope.unimported first) :
    found.foldl bind (scope.onTopOf base) = (found.foldl bind scope).onTopOf base := by
  induction found generalizing scope with
  | nil => rfl
  | cons i more ih =>
    rw [List.foldl_cons, List.foldl_cons, bind_onTopOf (hbase i List.mem_cons_self)]
    apply ih
    intro j hj first rest hpath hfixed
    -- An import changes neither the module nor its items, so the base stays as harmless as before.
    have hsame : (scope.bind i).unimported first = scope.unimported first :=
      unimported_congr (path_bind i) (fun _ => by rw [declared_bind]) first
    rw [hsame]
    exact hbase j (List.mem_cons_of_mem _ hj) first rest hpath hfixed

/-- Items that are independent of each other mean in order what each of them means alone. -/
theorem imported?_foldl_addItem_iff (hstart : start.imports = [])
    (hdistinct : (items.flatMap (·.importedNames)).Nodup)
    (hindependent : items.Pairwise start.Independent) {name : String} {target : ItemPath} :
    (items.foldl addItem start).imported? name = some target ↔
      ∃ item ∈ items, (start.addItem item).imported? name = some target := by
  have hempty : ∀ name, start.imported? name = none := by
    intro name
    rw [imported?, hstart]
    rfl
  -- The induction is on the last item, which finds the others already in the scope.
  induction items using List.reverseRecOn generalizing name target with
  | nil => simp [hempty]
  | append_singleton front last ih =>
    rw [List.flatMap_append, List.nodup_append] at hdistinct
    obtain ⟨hfront, -, hdisjoint⟩ := hdistinct
    rw [List.pairwise_append] at hindependent
    obtain ⟨hpairs, -, hlast⟩ := hindependent
    have hpath := path_foldl_addItem start front
    have hdeclared := declared_foldl_addItem start front
    have ih : ∀ name target, (front.foldl addItem start).imported? name = some target ↔
        ∃ item ∈ front, (start.addItem item).imported? name = some target :=
      fun name target => ih hfront hpairs
    rw [List.foldl_append, List.foldl_cons, List.foldl_nil]
    generalize front.foldl addItem start = scope at hpath hdeclared ih ⊢
    have htop : start.onTopOf scope = scope := by
      rw [onTopOf, hstart, List.nil_append, ← hpath, ← hdeclared]
    have hadd : scope.addItem last = (start.addItem last).onTopOf scope := by
      rw [addItem_eq_foldl, addItem_eq_foldl, ← foldl_bind_onTopOf, htop]
      intro i hi first rest hpath hfixed
      cases himported : scope.imported? first with
      | none => rfl
      | some target =>
        -- The name comes from a single item, which leaves the paths of the last one alone.
        obtain ⟨item, hitem, halone⟩ := (ih first target).mp himported
        have hleaves := (hlast item hitem last (List.mem_singleton_self last)).1
        have hmeaning := hleaves i hi first rest hpath hfixed
        rwa [meaning, meaning, halone, hempty] at hmeaning
    rw [hadd, imported?_onTopOf, Option.or_eq_some_iff, ih]
    constructor
    · rintro (hnew | ⟨-, item, hitem, hold⟩)
      · exact ⟨last, by simp, hnew⟩
      · exact ⟨item, by simp [hitem], hold⟩
    · rintro ⟨item, hitem, htarget⟩
      rcases List.mem_append.mp hitem with hold | hnew
      · -- What an item of the front imports, the last one does not import again.
        have himports : name ∈ item.importedNames := by
          by_contra hname
          rw [imported?_addItem_of_not_mem start hname, hempty] at htarget
          cases htarget
        have hname : name ∉ last.importedNames := by
          intro hmem
          exact hdisjoint name (List.mem_flatMap.mpr ⟨item, hold, himports⟩) name
            (by simpa using hmem) rfl
        refine .inr ⟨?_, item, hold, htarget⟩
        rw [imported?_addItem_of_not_mem start hname, hempty]
      · rw [List.mem_singleton.mp hnew] at htarget
        exact .inl htarget

/-! ## Items in another order -/

/-- Reordered items can be added to the scope of the module before its imports: the module declares
the same items. -/
theorem agrees_ofItems (path : ItemPath) (h : others.Perm items) :
    (others.foldl addItem (beforeImports path items)).Agrees (ofItems path others) := by
  have hstart : (beforeImports path items).Agrees (beforeImports path others) := by
    refine ⟨rfl, fun name => ?_, fun _ => rfl⟩
    rw [Bool.eq_iff_iff, List.contains_iff_mem, List.contains_iff_mem]
    exact (h.filterMap declaredName?).mem_iff
  exact hstart.foldl_addItem others

/-- The order of independent items is irrelevant. -/
theorem agrees_ofItems_of_independent (path : ItemPath) (h : others.Perm items)
    (hdistinct : (items.flatMap (·.importedNames)).Nodup)
    (hindependent : items.Pairwise (beforeImports path items).Independent) :
    (ofItems path items).Agrees (ofItems path others) := by
  have hothers : (others.flatMap (·.importedNames)).Nodup :=
    (h.flatMap_right _).nodup_iff.mpr hdistinct
  have hpairs : others.Pairwise (beforeImports path items).Independent :=
    (h.pairwise_iff Independent.symm).mpr hindependent
  apply Agrees.trans _ (agrees_ofItems path h)
  refine ⟨?_, fun name => ?_, fun name => Option.ext fun target => ?_⟩
  · rw [path_foldl_addItem, path_ofItems]
    rfl
  · rw [declared_foldl_addItem, ofItems, declared_foldl_addItem]
    rfl
  · -- Both orders give what the items mean alone.
    rw [imported?_foldl_addItem_iff rfl hothers hpairs]
    apply Iff.trans _ (imported?_foldl_addItem_iff rfl hdistinct hindependent).symm
    simp only [h.mem_iff]

/-- If the order of two items is irrelevant, the second one leaves the paths of the first one
alone. -/
theorem leavesPaths_of_imported?_eq {reader : SourceItem} {more : List SourceItem}
    (hdistinct : ((reader :: item :: more).flatMap (·.importedNames)).Nodup)
    (h : ∀ name, ((reader :: item :: more).foldl addItem start).imported? name =
      ((item :: reader :: more).foldl addItem start).imported? name) :
    start.LeavesPaths item reader := by
  intro i hi first rest hpath hfixed
  by_cases hfirst : first ∈ item.importedNames
  · simp only [List.flatMap_cons, List.nodup_append, List.mem_append] at hdistinct
    obtain ⟨hreader, ⟨-, -, hitem⟩, hothers⟩ := hdistinct
    have hi' : i.name ∈ reader.importedNames := List.mem_map_of_mem hi
    have hown : first ∉ reader.importedNames :=
      fun hmem => hothers first hmem first (.inl hfirst) rfl
    have hname : i.name ∉ item.importedNames :=
      fun hmem => hothers i.name hi' i.name (.inl hmem) rfl
    have hmore : i.name ∉ more.flatMap (·.importedNames) :=
      fun hmem => hothers i.name hi' i.name (.inr hmem) rfl
    -- The import is the same whether the other item stands behind it or in front of it.
    have hsame := h i.name
    simp only [List.foldl_cons] at hsame
    rw [imported?_foldl_addItem_of_not_mem _ more hmore,
      imported?_foldl_addItem_of_not_mem _ more hmore, imported?_addItem_of_not_mem _ hname,
      imported?_addItem_of_first start hreader hi hpath hfixed hown,
      imported?_addItem_of_first _ hreader hi hpath hfixed hown] at hsame
    exact (ItemPath.append_right_inj.mp (Option.some.inj hsame)).symm
  · rw [meaning, meaning, imported?_addItem_of_not_mem start hfirst, unimported_congr]
    · exact path_foldl_addItem start [item]
    · intro name
      rw [← declared_foldl_addItem start [item]]
      rfl

/-- **When the order of imports is irrelevant**: where a module imports no name twice, all orders of
its items give it the same imports, and so all paths the same meaning, exactly if no item changes
what a name stands for at which a path of another item starts. -/
theorem ofItems_perm_iff (path : ItemPath) (items : List SourceItem)
    (hdistinct : (items.flatMap (·.importedNames)).Nodup) :
    (∀ others : List SourceItem, others.Perm items →
      (∀ name, (ofItems path others).imported? name = (ofItems path items).imported? name) ∧
      (∀ names, (ofItems path others).absolute? names = (ofItems path items).absolute? names) ∧
      ∀ names, (ofItems path others).resolve? names = (ofItems path items).resolve? names) ↔
    items.Pairwise (beforeImports path items).Independent := by
  constructor
  · intro h
    rw [List.pairwise_iff_forall_sublist]
    intro item reader hsublist
    obtain ⟨more, hperm⟩ := hsublist.exists_perm_append
    have hfirst : (item :: reader :: more).Perm items := hperm.symm
    have hsecond : (reader :: item :: more).Perm items := (List.Perm.swap ..).trans hfirst
    -- Both orders of the two items give the imports of the module.
    have hsame : ∀ name, ((item :: reader :: more).foldl addItem
        (beforeImports path items)).imported? name =
        ((reader :: item :: more).foldl addItem (beforeImports path items)).imported? name := by
      intro name
      rw [← (agrees_ofItems path hfirst).imported, ← (agrees_ofItems path hsecond).imported,
        (h _ hfirst).1, (h _ hsecond).1]
    have hnames : ∀ {others : List SourceItem}, others.Perm items →
        (others.flatMap (·.importedNames)).Nodup :=
      fun hothers => (hothers.flatMap_right _).nodup_iff.mpr hdistinct
    exact ⟨leavesPaths_of_imported?_eq (hnames hsecond) fun name => (hsame name).symm,
      leavesPaths_of_imported?_eq (hnames hfirst) hsame⟩
  · intro h others hperm
    have hagrees := agrees_ofItems_of_independent path hperm hdistinct h
    exact ⟨hagrees.imported, hagrees.absolute?, hagrees.resolve?⟩

/-- Two imports, the first of which starts at the name that the second one binds. -/
def chainedImports : List SourceItem :=
  [.use false (.path "model" (.name "Item")),
    .use false (.path "crate" (.path "shared" (.name "model")))]

/-- The first import stands for another item if the second one is written in front of it. -/
theorem ofItems_reverse_of_chained_imports :
    let path : ItemPath := ⟨.target .entry, ["api"]⟩
    (chainedImports.flatMap (·.importedNames)).Nodup ∧
      (ofItems path chainedImports).absolute? ["Item"] = some ⟨.everything, ["model", "Item"]⟩ ∧
      (ofItems path chainedImports.reverse).absolute? ["Item"] =
        some ⟨.target .entry, ["shared", "model", "Item"]⟩ ∧
      ¬ chainedImports.Pairwise (beforeImports path chainedImports).Independent := by
  intro path
  have hdistinct : (chainedImports.flatMap (·.importedNames)).Nodup := by decide
  have hwritten : (ofItems path chainedImports).absolute? ["Item"] =
      some ⟨.everything, ["model", "Item"]⟩ := by decide
  have hreversed : (ofItems path chainedImports.reverse).absolute? ["Item"] =
      some ⟨.target .entry, ["shared", "model", "Item"]⟩ := by decide
  refine ⟨hdistinct, hwritten, hreversed, fun hindependent => ?_⟩
  -- If the imports were independent, both orders would find the same item.
  have hall := (ofItems_perm_iff path chainedImports hdistinct).mpr hindependent
  have hsame := (hall chainedImports.reverse (List.reverse_perm _)).2.1 ["Item"]
  rw [hwritten, hreversed] at hsame
  exact absurd hsame (by decide)

end ModuleScope

end RouteRegistrar
