import RouteRegistrar.Proofs.Source.ImportOrder
import RouteRegistrar.Proofs.Source.Qualification

/-!
# Absolute paths without relative names

The language reads `self` as the module and each `super` behind it as one step up. A scope does so
for a run of `super` at the beginning, but not for one behind `self`: the path keeps its `super`,
and an import of such a path hands it on to all paths that start at the imported name.

So absolute paths and qualified types are free of `self`, `super`, `Self` and of `crate` in the
middle exactly where no path takes this detour.
-/

namespace RouteRegistrar

open Grammar

/-! ## Paths of the language -/

/-- Names that have no meaning of their own. -/
def IsPlain (names : List String) : Prop := ∀ name ∈ names, name ∉ ModuleScope.fixedNames

instance (names : List String) : Decidable (IsPlain names) :=
  List.decidableBAll (fun name => name ∉ ModuleScope.fixedNames) names

/-- A path without colons in front. `crate`, `self` and `super` stand at the beginning only, and
behind `self` or `super` there may be further `super`. -/
inductive IsLocalPath : List String → Prop where
  | plain {first : String} {rest : List String} : IsPlain (first :: rest) →
      IsLocalPath (first :: rest)
  | crate {rest : List String} : IsPlain rest → IsLocalPath ("crate" :: rest)
  | own (ups : Nat) {rest : List String} : IsPlain rest →
      IsLocalPath ("self" :: (List.replicate ups "super" ++ rest))
  | enclosing (ups : Nat) {rest : List String} : IsPlain rest →
      IsLocalPath (List.replicate (ups + 1) "super" ++ rest)

/-- A path of an import. An empty first name stands for two colons in front. -/
inductive IsUsePath : List String → Prop where
  | rooted {first : String} {rest : List String} : IsPlain (first :: rest) →
      IsUsePath ("" :: first :: rest)
  | unrooted {names : List String} : IsLocalPath names → IsUsePath names

/-- A path in a type. -/
def Spelling.IsTypePath (spelled : Spelling) : Prop :=
  if spelled.isRooted then IsPlain spelled.names
  else IsLocalPath spelled.names ∨ ∃ rest, spelled.names = "Self" :: rest ∧ IsPlain rest

/-- A spelling without relative names. `crate` may stand at the beginning. -/
def Spelling.IsNormal (spelled : Spelling) : Prop :=
  IsPlain spelled.names ∨
    spelled.isRooted = false ∧ ∃ rest, spelled.names = "crate" :: rest ∧ IsPlain rest

/-- A full path without relative names. -/
def ItemPath.IsNormal (path : ItemPath) : Prop := IsPlain path.segments

instance (path : ItemPath) : Decidable path.IsNormal := inferInstanceAs (Decidable (IsPlain _))

/-- The full path of a path that starts at a module: each leading `super` is one step up. -/
def ItemPath.climb (path : ItemPath) (names : List String) : ItemPath :=
  (path.ancestor (names.takeWhile (· = "super")).length).append (names.dropWhile (· = "super"))

namespace ModuleScope

variable {path found target : ItemPath} {items : List SourceItem} {imports : List Import}
  {first : String} {rest names : List String}

/-- A module as the compiler accepts it. -/
structure IsLegalModule (path : ItemPath) (items : List SourceItem) : Prop where
  root_ne : path.root ≠ .everything
  isNormal : path.IsNormal
  declared : IsPlain (items.filterMap declaredName?)
  imported : IsPlain (items.flatMap (·.importedNames))
  paths : ∀ i ∈ items.flatMap (·.imports), IsUsePath i.path

/-! ## Relative names as the language reads them -/

/-- What a path stands for if every leading `super`, also one behind `self`, is a step up. `lookup`
says what other names stand for. -/
def denotedBy? (path : ItemPath) (lookup : String → Option ItemPath) :
    List String → Option ItemPath
  | [] => none
  | first :: rest =>
    if first = "" then some ⟨.everything, rest⟩
    else if first = "crate" then some ⟨path.root, rest⟩
    else if first = "self" then some (path.climb rest)
    else if first = "super" then some (path.climb (first :: rest))
    else if first = "Self" then none
    else (lookup first).map (·.append rest)

/-- What a name stands for, given the imports of the module, the newest first. -/
def lookup? (path : ItemPath) (declared : List String) : List Import → String → Option ItemPath
  | [], name =>
    some (if declared.contains name then path.append [name] else ⟨.everything, [name]⟩)
  | last :: older, name =>
    if last.name = name then denotedBy? path (lookup? path declared older) last.path
    else lookup? path declared older name

/-- What a path in a module stands for if every leading `super` is a step up, in the path and in the
imports. -/
def denoted? (path : ItemPath) (declared : List String) (imports : List Import) :
    List String → Option ItemPath :=
  denotedBy? path (lookup? path declared imports)

/-- A path with `super` behind `self`, or one that starts at a name imported by such a path. -/
inductive Detours : List Import → List String → Prop where
  | own {imports : List Import} {rest : List String} : Detours imports ("self" :: "super" :: rest)
  | imported {last : Import} {older : List Import} {rest : List String}
      (hfixed : last.name ∉ fixedNames) : Detours older last.path →
      Detours (last :: older) (last.name :: rest)
  | older {last : Import} {older : List Import} {first : String} {rest : List String}
      (hfixed : first ∉ fixedNames) (hname : last.name ≠ first) : Detours older (first :: rest) →
      Detours (last :: older) (first :: rest)

/-! ## Plain names -/

theorem isPlain_append {front : List String} :
    IsPlain (front ++ rest) ↔ IsPlain front ∧ IsPlain rest := by
  simp only [IsPlain, List.mem_append, or_imp, forall_and]

theorem isPlain_cons : IsPlain (first :: rest) ↔ first ∉ fixedNames ∧ IsPlain rest :=
  List.forall_mem_cons

theorem head?_ne_super (h : IsPlain rest) : rest.head? ≠ some "super" := by
  intro hhead
  exact h "super" (List.mem_of_mem_head? hhead) (by decide)

/-- Going up and on from a module without relative names leads to no relative names. -/
theorem isNormal_ancestor_append (hpath : path.IsNormal) (hrest : IsPlain rest) (ups : Nat) :
    ((path.ancestor ups).append rest).IsNormal :=
  isPlain_append.mpr ⟨fun name hname => hpath name (List.mem_of_mem_take hname), hrest⟩

theorem climb_replicate (path : ItemPath) (ups : Nat) (hrest : IsPlain rest) :
    path.climb (List.replicate ups "super" ++ rest) = (path.ancestor ups).append rest := by
  -- A plain rest does not start at `super`, so the climb ends with the run.
  have htake : rest.takeWhile (· = "super") = [] := by
    cases rest with
    | nil => rfl
    | cons first rest => exact List.takeWhile_cons_of_neg (by simpa using head?_ne_super hrest)
  have hdrop : rest.dropWhile (· = "super") = rest := by
    cases rest with
    | nil => rfl
    | cons first rest => exact List.dropWhile_cons_of_neg (by simpa using head?_ne_super hrest)
  rw [ItemPath.climb, List.takeWhile_append_of_pos (by simp), htake, List.append_nil,
    List.length_replicate, List.dropWhile_append_of_pos (by simp), hdrop]

/-! ## Detours -/

/-- At a fixed name, only `super` behind `self` makes a detour. -/
theorem eq_of_detours_of_fixed (hfixed : first ∈ fixedNames) (h : Detours imports (first :: rest)) :
    first = "self" ∧ ∃ more, rest = "super" :: more := by
  cases h with
  | own => exact ⟨rfl, _, rfl⟩
  | imported hplain => exact absurd hfixed hplain
  | older hplain => exact absurd hfixed hplain

theorem not_detours_of_fixed (hfixed : first ∈ fixedNames) (hself : first ≠ "self") :
    ¬Detours imports (first :: rest) :=
  fun hdetour => hself (eq_of_detours_of_fixed hfixed hdetour).1

theorem detours_imported_iff {last : Import} {older : List Import}
    (hfixed : last.name ∉ fixedNames) :
    Detours (last :: older) (last.name :: rest) ↔ Detours older last.path := by
  refine ⟨fun h => ?_, .imported hfixed⟩
  generalize hname : last.name = first at h hfixed
  cases h with
  | own => exact absurd (by decide) hfixed
  | imported _ h => exact h
  | older _ hother => exact absurd hname hother

theorem detours_older_iff {last : Import} {older : List Import} (hfixed : first ∉ fixedNames)
    (hname : last.name ≠ first) :
    Detours (last :: older) (first :: rest) ↔ Detours older (first :: rest) := by
  refine ⟨fun h => ?_, .older hfixed hname⟩
  cases h with
  | own => exact absurd (by decide) hfixed
  | imported => exact absurd rfl hname
  | older _ _ h => exact h

/-! ## What a scope makes of a path -/

/-- A found path is the one that is denoted unless the path makes a detour. Then the found path has
relative names. -/
structure Follows (imports : List Import) (names : List String) (found target : ItemPath) :
    Prop where
  isNamed : found.IsNamed
  isNormal : target.IsNormal
  cases : Detours imports names ∧ ¬found.IsNormal ∨ ¬Detours imports names ∧ found = target

theorem Follows.direct (h : ¬Detours imports names) (hnamed : target.IsNamed)
    (hnormal : target.IsNormal) : Follows imports names target target :=
  ⟨hnamed, hnormal, .inr ⟨h, rfl⟩⟩

theorem denoted?_of_not_fixed (path : ItemPath) (declared : List String) (h : first ∉ fixedNames) :
    denoted? path declared imports (first :: rest) =
      (lookup? path declared imports first).map (·.append rest) := by
  simp only [fixedNames, List.mem_cons, List.not_mem_nil, or_false, not_or] at h
  obtain ⟨hroot, hcrate, hself, hsuper, hown⟩ := h
  rw [denoted?, denotedBy?, if_neg hroot, if_neg hcrate, if_neg hself, if_neg hsuper, if_neg hown]

/-- A path that starts at a fixed name does not depend on imports. -/
theorem exists_follows_of_fixed {scope : ModuleScope} (hroot : scope.path.root ≠ .everything)
    (hpath : scope.path.IsNormal) (declared : List String) (hnames : IsUsePath (first :: rest))
    (hfixed : first ∈ fixedNames) :
    ∃ found target, scope.absolute? (first :: rest) = some found ∧
      denoted? scope.path declared imports (first :: rest) = some target ∧
      Follows imports (first :: rest) found target := by
  generalize hsame : first :: rest = names at hnames ⊢
  cases hnames with
  | @rooted first rest h =>
    exact ⟨_, _, rfl, rfl, .direct (not_detours_of_fixed (by decide) (by decide))
      (fun _ => List.cons_ne_nil _ _) h⟩
  | unrooted h =>
    cases h with
    | @plain first rest h =>
      cases hsame
      exact absurd hfixed (isPlain_cons.mp h).1
    | @crate rest h =>
      exact ⟨_, _, rfl, rfl, .direct (not_detours_of_fixed (by decide) (by decide))
        (ItemPath.isNamed_of_root hroot) h⟩
    | @own ups rest h =>
      have hdenoted : denoted? scope.path declared imports
          ("self" :: (List.replicate ups "super" ++ rest)) =
          some ((scope.path.ancestor ups).append rest) := by
        rw [← climb_replicate scope.path ups h]
        rfl
      refine ⟨_, _, absolute?_own scope _, hdenoted, ItemPath.isNamed_of_root hroot,
        isNormal_ancestor_append hpath h ups, ?_⟩
      -- The scope appends what stands behind `self`, so each `super` there stays.
      cases ups with
      | zero =>
        rw [ItemPath.ancestor_zero]
        refine .inr ⟨fun hdetour => ?_, rfl⟩
        obtain ⟨-, more, rfl⟩ := eq_of_detours_of_fixed (by decide) hdetour
        exact head?_ne_super h rfl
      | succ ups =>
        refine .inl ⟨.own, fun hnormal => ?_⟩
        exact hnormal "super" (by simp [ItemPath.append, List.replicate_succ]) (by decide)
    | @enclosing ups rest h =>
      have hdenoted : denoted? scope.path declared imports
          (List.replicate (ups + 1) "super" ++ rest) =
          some ((scope.path.ancestor (ups + 1)).append rest) := by
        rw [← climb_replicate scope.path (ups + 1) h]
        rfl
      exact ⟨_, _, absolute?_climbs scope ups (head?_ne_super h), hdenoted,
        .direct (not_detours_of_fixed (by decide) (by decide)) (ItemPath.isNamed_of_root hroot)
          (isNormal_ancestor_append hpath h _)⟩

theorem exists_head_of_local (h : IsLocalPath names) : ∃ first rest, names = first :: rest ∧
    (IsPlain (first :: rest) ∨ first ∈ ["crate", "self", "super"]) := by
  cases h with
  | plain h => exact ⟨_, _, rfl, .inl h⟩
  | crate => exact ⟨_, _, rfl, .inr (by decide)⟩
  | own => exact ⟨_, _, rfl, .inr (by decide)⟩
  | enclosing => exact ⟨_, _, rfl, .inr (by decide)⟩

theorem exists_head (h : IsUsePath names) : ∃ first rest, names = first :: rest ∧
    (IsPlain (first :: rest) ∨ first ∈ fixedNames) := by
  cases h with
  | rooted => exact ⟨_, _, rfl, .inr (by decide)⟩
  | unrooted h =>
    obtain ⟨first, rest, rfl, hplain | hfixed⟩ := exists_head_of_local h
    · exact ⟨first, rest, rfl, .inl hplain⟩
    · refine ⟨first, rest, rfl, .inr ?_⟩
      simp only [fixedNames, List.mem_cons, List.not_mem_nil, or_false] at hfixed ⊢
      tauto

/-- What an import stands for goes on where its name does. -/
theorem Follows.append {last : Import} {older : List Import} (hfixed : last.name ∉ fixedNames)
    (h : Follows older last.path found target) (hrest : IsPlain rest) :
    Follows (last :: older) (last.name :: rest) (found.append rest) (target.append rest) := by
  refine ⟨ItemPath.isNamed_append h.isNamed rest, isPlain_append.mpr ⟨h.isNormal, hrest⟩, ?_⟩
  rw [detours_imported_iff hfixed]
  rcases h.cases with ⟨hdetour, hfound⟩ | ⟨hdirect, rfl⟩
  · exact .inl ⟨hdetour, fun hnormal => hfound (isPlain_append.mp hnormal).1⟩
  · exact .inr ⟨hdirect, rfl⟩

/-- A newer import of another name is passed over. -/
theorem Follows.older {last : Import} {older : List Import} (hfixed : first ∉ fixedNames)
    (hname : last.name ≠ first) (h : Follows older (first :: rest) found target) :
    Follows (last :: older) (first :: rest) found target := by
  refine ⟨h.isNamed, h.isNormal, ?_⟩
  rw [detours_older_iff hfixed hname]
  exact h.cases

theorem not_detours_nil (h : first ∉ fixedNames) : ¬Detours [] (first :: rest) := by
  intro hdetour
  cases hdetour
  exact h (by decide)

/-- A new import gives its name what its path stood for. -/
theorem meaning_bind_name {scope : ModuleScope} {last : Import}
    (h : scope.absolute? last.path = some found) : (scope.bind last).meaning last.name = found := by
  have hresolvable := (isSome_absolute?_iff scope last).mp (by rw [h]; rfl)
  rw [meaning, imported?_bind hresolvable, if_pos rfl, h, Option.getD_some]

theorem meaning_bind_of_ne {scope : ModuleScope} {last : Import}
    (h : scope.absolute? last.path = some found) (hname : last.name ≠ first) :
    (scope.bind last).meaning first = scope.meaning first := by
  have hresolvable := (isSome_absolute?_iff scope last).mp (by rw [h]; rfl)
  rw [meaning, meaning, imported?_bind hresolvable, if_neg hname,
    unimported_congr (path_bind last) fun _ => by rw [declared_bind]]

/-- A scope follows the rules of the language for all paths without a detour. -/
theorem exists_follows (items : List SourceItem) (hroot : path.root ≠ .everything)
    (hpath : path.IsNormal) (himports : ∀ i ∈ imports, i.name ∉ fixedNames ∧ IsUsePath i.path)
    (hnames : IsUsePath names) :
    ∃ found target, (withImports path items imports.reverse).absolute? names = some found ∧
      denoted? path (items.filterMap declaredName?) imports names = some target ∧
      Follows imports names found target := by
  induction imports generalizing names with
  | nil =>
    obtain ⟨first, rest, rfl, h | hfixed⟩ := exists_head hnames
    · obtain ⟨hfirst, hrest⟩ := isPlain_cons.mp h
      rw [absolute?_of_not_fixed hfirst, denoted?_of_not_fixed _ _ hfirst]
      have hunimported : ((withImports path items []).unimported first).IsNamed ∧
          ((withImports path items []).unimported first).IsNormal := by
        unfold unimported
        split
        case isTrue =>
          exact ⟨ItemPath.isNamed_of_root hroot, isPlain_append.mpr ⟨hpath, by simpa [IsPlain]⟩⟩
        case isFalse => exact ⟨fun _ => List.cons_ne_nil _ _, by simpa [ItemPath.IsNormal, IsPlain]⟩
      exact ⟨_, _, rfl, rfl, .direct (not_detours_nil hfirst)
        (ItemPath.isNamed_append hunimported.1 rest) (isPlain_append.mpr ⟨hunimported.2, hrest⟩)⟩
    · exact exists_follows_of_fixed hroot hpath _ hnames hfixed
  | cons last older ih =>
    obtain ⟨⟨hlast, hlastPath⟩, holder⟩ := List.forall_mem_cons.mp himports
    have hscope : withImports path items (last :: older).reverse =
        (withImports path items older.reverse).bind last := by
      rw [withImports, List.reverse_cons, List.foldl_append, List.foldl_cons, List.foldl_nil,
        withImports]
    obtain ⟨first, rest, rfl, h | hfixed⟩ := exists_head hnames
    · obtain ⟨hfirst, hrest⟩ := isPlain_cons.mp h
      rw [hscope]
      -- The newest import counts if it has the name, and else the older ones.
      by_cases hname : last.name = first
      · subst hname
        obtain ⟨found, target, hfound, htarget, hfollows⟩ := ih holder hlastPath
        refine ⟨found.append rest, target.append rest, ?_, ?_, hfollows.append hlast hrest⟩
        · rw [absolute?_of_not_fixed hfirst, meaning_bind_name hfound]
        · rw [denoted?_of_not_fixed _ _ hfirst, lookup?, if_pos rfl, ← denoted?, htarget]
          rfl
      · obtain ⟨found, target, hfound, htarget, hfollows⟩ := ih holder hnames
        refine ⟨found, target, ?_, ?_, hfollows.older hfirst hname⟩
        · obtain ⟨_, _, himport, -⟩ := ih holder hlastPath
          rw [absolute?_of_not_fixed hfirst, meaning_bind_of_ne himport hname, ← hfound,
            absolute?_of_not_fixed hfirst]
        · rw [denoted?_of_not_fixed _ _ hfirst, lookup?, if_neg hname, ← htarget,
            denoted?_of_not_fixed _ _ hfirst]
    · have hsame := path_withImports path items (last :: older).reverse
      generalize withImports path items (last :: older).reverse = scope at hsame ⊢
      subst hsame
      exact exists_follows_of_fixed hroot hpath _ hnames hfixed

/-! ## Paths in signatures -/

variable {libraryName : Option String}

theorem Follows.isNormal_iff (h : Follows imports names found target) :
    found.IsNormal ↔ ¬Detours imports names := by
  rcases h.cases with ⟨hdetour, hfound⟩ | ⟨hdirect, rfl⟩
  · exact iff_of_false hfound (not_not.mpr hdetour)
  · exact iff_of_true h.isNormal hdirect

/-- The imports of a module, the newest first. -/
def newestImports (items : List SourceItem) : List Import := (items.flatMap (·.imports)).reverse

theorem IsLegalModule.exists_follows (h : IsLegalModule path items) (hnames : IsUsePath names) :
    ∃ found target, (ofItems path items).absolute? names = some found ∧
      denoted? path (items.filterMap declaredName?) (newestImports items) names = some target ∧
      Follows (newestImports items) names found target := by
  -- The imports are taken from the last to the first, which changes nothing about them.
  have himports : ∀ i ∈ newestImports items, i.name ∉ fixedNames ∧ IsUsePath i.path := by
    intro i hi
    rw [newestImports, List.mem_reverse] at hi
    exact ⟨h.imported i.name (name_mem_importedNames hi), h.paths i hi⟩
  have hfollows := ModuleScope.exists_follows items h.root_ne h.isNormal himports hnames
  rwa [newestImports, List.reverse_reverse, ← ofItems_eq_withImports] at hfollows

/-- No item is named like a root or a type of its own. -/
theorem IsLegalModule.not_knows (h : IsLegalModule path items) (hfixed : first ∈ fixedNames)
    (hfirst : first ∉ ["crate", "self", "super"]) : (ofItems path items).knows first = false := by
  have himported : (ofItems path items).imported? first = none :=
    imported?_ofItems_of_not_mem fun hmem => h.imported first hmem hfixed
  have hdeclared : first ∉ (ofItems path items).declared := by
    rw [ofItems_eq_withImports, declared_withImports]
    exact fun hmem => h.declared first hmem hfixed
  simp only [List.mem_cons, List.not_mem_nil, or_false, not_or] at hfirst
  simp [knows, himported, hdeclared, hfirst]

/-- A path in a signature is resolved as in an import, or it is written out of plain names. -/
theorem IsLegalModule.resolve?_cases (h : IsLegalModule path items) (hnames : IsLocalPath names) :
    (∃ found, (ofItems path items).resolve? names = some found ∧ found.IsNamed ∧
      (found.IsNormal ↔ ¬Detours (newestImports items) names)) ∨
    ((ofItems path items).resolve? names = none ∧ IsPlain names ∧
      ¬Detours (newestImports items) names) := by
  obtain ⟨found, target, hfound, -, hfollows⟩ := h.exists_follows (.unrooted hnames)
  cases names with
  | nil => cases hfound
  | cons first rest =>
    -- A name that the scope does not know is kept, and it is no keyword and no import.
    cases hknows : (ofItems path items).knows first with
    | true =>
      exact .inl ⟨found, by rw [resolve?, if_pos hknows, hfound], hfollows.isNamed,
        hfollows.isNormal_iff⟩
    | false =>
      obtain ⟨first, rest, hcons, hplain | hfixed⟩ := exists_head_of_local hnames
      · cases hcons
        have hknown := hknows
        simp only [knows, Bool.or_eq_false_iff, Option.isSome_eq_false_iff,
          Option.isNone_iff_eq_none] at hknown
        obtain ⟨⟨-, himported⟩, hdeclared⟩ := hknown
        rw [absolute?_of_not_fixed (isPlain_cons.mp hplain).1, meaning, himported, unimported,
          hdeclared] at hfound
        cases hfound
        exact .inr ⟨by rw [resolve?, hknows]; rfl, hplain, hfollows.isNormal_iff.mp hplain⟩
      · cases hcons
        simp only [List.mem_cons, List.not_mem_nil, or_false] at hfixed
        rcases hfixed with rfl | rfl | rfl <;> simp [knows] at hknows

/-- What is resolved of a path is a path of its own. -/
theorem IsLegalModule.isLocalPath_resolved (h : IsLegalModule path items)
    (hfound : (ofItems path items).resolve? (names.take (Qualifier.resolvedCount names)) =
      some found) : IsLocalPath (names.take (Qualifier.resolvedCount names)) := by
  -- A run of `super`, nothing, or one name that the scope knows.
  rcases take_resolvedCount_cases names with ⟨ups, hsupers⟩ | hnil | ⟨first, hsuper, hfirst⟩
  · have hlocal := @IsLocalPath.enclosing ups [] nofun
    rwa [List.append_nil, ← hsupers] at hlocal
  · rw [hnil] at hfound
    cases hfound
  · rw [hfirst] at hfound ⊢
    by_cases hfixed : first ∈ fixedNames
    · by_cases hknown : first ∈ ["crate", "self", "super"]
      · simp only [List.mem_cons, List.not_mem_nil, or_false] at hknown
        rcases hknown with rfl | rfl | rfl
        · exact .crate nofun
        · exact @IsLocalPath.own 0 [] nofun
        · exact absurd rfl hsuper
      · rw [resolve?, h.not_knows hfixed hknown] at hfound
        cases hfound
    · exact .plain (isPlain_cons.mpr ⟨hfixed, nofun⟩)

end ModuleScope

namespace Qualifier

open ModuleScope

variable {path found selfType : ItemPath} {items : List SourceItem} {libraryName : Option String}

/-- As seen from the entry target, a full path is as normal as it is. -/
theorem isNormal_spelling_iff (hlibrary : ∀ name ∈ libraryName, name ∉ fixedNames) :
    (found.spelling libraryName).IsNormal ↔ found.IsNormal := by
  obtain ⟨root, segments⟩ := found
  -- Behind `crate` as behind two colons, it is the plain names that count.
  have hcrate : (Spelling.mk false ("crate" :: segments)).IsNormal ↔ IsPlain segments := by
    constructor
    · rintro (hplain | ⟨-, rest, hrest, hplain⟩)
      · exact absurd (by decide) (isPlain_cons.mp hplain).1
      · cases hrest
        exact hplain
    · intro hplain
      exact .inr ⟨rfl, segments, rfl, hplain⟩
  -- Behind two colons there is no first name to be a keyword.
  have hrooted : ∀ names, (Spelling.mk true names).IsNormal ↔ IsPlain names := by
    intro names
    exact or_iff_left fun h => Bool.noConfusion h.1
  cases root with
  | everything => exact hrooted segments
  | target target =>
    cases target with
    | entry => exact hcrate
    | library =>
      cases libraryName with
      | none => exact hcrate
      | some name =>
        exact (hrooted _).trans (isPlain_cons.trans (and_iff_right (hlibrary name rfl)))

/-- In a module as the compiler accepts it, every resolved beginning has a name. -/
theorem namesBeginnings (libraryName : Option String) (h : IsLegalModule path items)
    (hself : selfType.IsNamed) :
    (Qualifier.mk (ofItems path items) selfType libraryName).NamesBeginnings := by
  intro names found hfound
  refine ItemPath.spelling_names_ne_nil ?_ libraryName
  rw [target?] at hfound
  -- A beginning is the handler type, or what a local path stands for.
  split at hfound
  case isTrue => exact Option.some.inj hfound ▸ hself
  case isFalse =>
    rcases h.resolve?_cases (h.isLocalPath_resolved hfound) with
      ⟨resolved, hresolved, hnamed, -⟩ | ⟨hnone, -⟩
    · exact Option.some.inj (hfound.symm.trans hresolved) ▸ hnamed
    · cases hfound.symm.trans hnone

/-! ## Types in signatures -/

/-- A path in a type that makes a detour, be it behind `Self`, which stands for the path in the
header of the block. -/
def Strays (imports : List Import) (header : List String) (spelled : Spelling) : Prop :=
  spelled.isRooted = false ∧
    (Detours imports spelled.names ∨ spelled.names.head? = some "Self" ∧ Detours imports header)

/-- What `Self` stands for is as normal as the path in the header. -/
theorem isNormal_selfPath_iff (h : IsLegalModule path items) {header : List String}
    (hheader : IsLocalPath header) {last : String} (hlast : last ∉ fixedNames) :
    ((ofItems path items).selfPath header last).IsNamed ∧
      (((ofItems path items).selfPath header last).IsNormal ↔
        ¬Detours (newestImports items) header) := by
  rw [selfPath]
  -- A header that stands for nothing names an item of the module.
  rcases h.resolve?_cases hheader with ⟨found, hfound, hresult⟩ | ⟨hnone, -, hdirect⟩
  · rw [hfound]
    exact hresult
  · rw [hnone, Option.getD_none, path_ofItems]
    refine ⟨ItemPath.isNamed_of_root h.root_ne, iff_of_true ?_ hdirect⟩
    exact isPlain_append.mpr ⟨h.isNormal, isPlain_cons.mpr ⟨hlast, nofun⟩⟩

/-- A path in a type is spelled without relative names unless it strays. -/
theorem isNormal_respell_iff (h : IsLegalModule path items) {header : List String}
    (hheader : IsLocalPath header) {last : String} (hlast : last ∉ fixedNames)
    (hlibrary : ∀ name ∈ libraryName, name ∉ fixedNames) {spelled : Spelling}
    (hspelled : spelled.IsTypePath) :
    ((Qualifier.mk (ofItems path items) ((ofItems path items).selfPath header last)
      libraryName).respell .type spelled).IsNormal ↔
        ¬Strays (newestImports items) header spelled := by
  obtain ⟨isRooted, names⟩ := spelled
  -- A rooted path is kept, a local one is resolved, and `Self` is replaced by the handler type.
  cases isRooted with
  | true =>
    have hplain : IsPlain names := hspelled
    exact iff_of_true (.inl hplain) fun hstrays => Bool.noConfusion hstrays.1
  | false =>
    rw [Strays, eq_self_iff_true, true_and, respell, if_neg Bool.false_ne_true]
    rcases (show IsLocalPath names ∨ ∃ rest, names = "Self" :: rest ∧ IsPlain rest from hspelled)
      with hlocal | ⟨rest, rfl, hrest⟩
    · -- A local path does not start at `Self`, so it is resolved in the scope.
      have hself : names.head? ≠ some "Self" := by
        obtain ⟨first, rest, rfl, hplain | hfixed⟩ := exists_head_of_local hlocal
        · rintro ⟨rfl⟩
          exact (isPlain_cons.mp hplain).1 (by decide)
        · rintro ⟨rfl⟩
          exact absurd hfixed (by decide)
      rw [meaning?, if_neg hself, or_iff_left fun hown => hself hown.1]
      rcases h.resolve?_cases hlocal with ⟨found, hfound, -, hnormal⟩ | ⟨hnone, hplain, hdirect⟩
      · rw [hfound, ← hnormal]
        exact isNormal_spelling_iff hlibrary
      · rw [hnone]
        exact iff_of_true (.inl hplain) hdirect
    · have hdirect : ¬Detours (newestImports items) ("Self" :: rest) :=
        not_detours_of_fixed (by decide) (by decide)
      have hhead : (Spelling.mk false ("Self" :: rest)).names.head? = some "Self" := rfl
      rw [meaning?, if_pos hhead, or_iff_right hdirect, and_iff_right hhead,
        ← (isNormal_selfPath_iff h hheader hlast).2]
      refine (isNormal_spelling_iff hlibrary).trans ?_
      exact isPlain_append.trans (and_iff_left hrest)

/-- **Where paths become absolute without relative names**: in a module as the compiler accepts it,
every path of the language is made absolute. It becomes what it denotes, free of relative names,
exactly if it makes no detour. A qualified type has no relative names exactly if none of its paths
makes a detour; the paths of its traits are left as they are. -/
theorem isNormal_iff_not_detours (path : ItemPath) (items : List SourceItem)
    (header : List String) (last : String) (libraryName : Option String)
    (hmodule : IsLegalModule path items) (hheader : IsLocalPath header)
    (hlast : last ∉ fixedNames) (hlibrary : ∀ name ∈ libraryName, name ∉ fixedNames) :
    (∀ names, IsUsePath names → ∃ found target,
      (ofItems path items).absolute? names = some found ∧
      denoted? path (items.filterMap declaredName?) (newestImports items) names = some target ∧
      target.IsNormal ∧
      (found.IsNormal ↔ ¬Detours (newestImports items) names) ∧
      (found = target ↔ ¬Detours (newestImports items) names)) ∧
    ∀ type result, Tree.IsProper type → (∀ spelled ∈ type.spellings .type, spelled.IsTypePath) →
      (Qualifier.mk (ofItems path items) ((ofItems path items).selfPath header last)
        libraryName).qualify type = .ok result →
      ((∀ spelled ∈ result.spellings .type, spelled.IsNormal) ↔
        ∀ spelled ∈ type.spellings .type, ¬Strays (newestImports items) header spelled) ∧
      ∀ use, use ≠ .type → ∀ spelled,
        spelled ∈ result.spellings use ↔ spelled ∈ type.spellings use := by
  constructor
  · intro names hnames
    obtain ⟨found, target, hfound, htarget, hfollows⟩ := hmodule.exists_follows hnames
    refine ⟨found, target, hfound, htarget, hfollows.isNormal, hfollows.isNormal_iff, ?_⟩
    -- With a detour the path that is found is no normal form, so it is not the target.
    rcases hfollows.cases with ⟨hdetour, hrelative⟩ | ⟨hdirect, rfl⟩
    · refine iff_of_false ?_ (not_not.mpr hdetour)
      rintro rfl
      exact hrelative hfollows.isNormal
    · exact iff_of_true rfl hdirect
  · intro type result hproper htype hresult
    have hself := (isNormal_selfPath_iff hmodule hheader hlast).1
    have hnamed := namesBeginnings libraryName hmodule hself
    -- The types of the result are those of the source, each spelled anew.
    have hspellings := mem_spellings_qualify hnamed hproper hresult .type
    refine ⟨?_, fun use => mem_spellings_trait hnamed hproper hresult⟩
    constructor
    · intro hnormal spelled hspelled
      rw [← isNormal_respell_iff hmodule hheader hlast hlibrary (htype spelled hspelled)]
      exact hnormal _ ((hspellings _).mpr ⟨spelled, hspelled, rfl⟩)
    · intro hdirect spelled hspelled
      obtain ⟨old, hold, rfl⟩ := (hspellings spelled).mp hspelled
      exact (isNormal_respell_iff hmodule hheader hlast hlibrary (htype old hold)).mpr
        (hdirect old hold)

/-- A module that imports an item of the enclosing module by way of itself. -/
def detouredImport : List SourceItem :=
  [.use false (.path "self" (.path "super" (.name "Shared"))), .declaration "Api"]

/-- The import keeps its `super`, and so does every type that it is used in. -/
theorem qualify_of_detoured_import :
    let path : ItemPath := ⟨.target .entry, ["api"]⟩
    let scope := ofItems path detouredImport
    let type := Tree.node .typePath [plainPath (.word "Shared")]
    IsLegalModule path detouredImport ∧ IsLocalPath ["Api"] ∧ "Api" ∉ fixedNames ∧
      scope.absolute? ["Shared"] = some ⟨.target .entry, ["api", "super", "Shared"]⟩ ∧
      denoted? path ["Api"] (newestImports detouredImport) ["Shared"] =
        some ⟨.target .entry, ["Shared"]⟩ ∧
      ∃ result, (Qualifier.mk scope (scope.selfPath ["Api"] "Api") none).qualify type =
        .ok result ∧ ¬∀ spelled ∈ result.spellings .type, spelled.IsNormal := by
  intro path scope type
  have himports : detouredImport.flatMap (·.imports) =
      [⟨"Shared", ["self", "super", "Shared"]⟩] := rfl
  have hmodule : IsLegalModule path detouredImport := by
    refine ⟨nofun, by decide, by decide, by decide, ?_⟩
    rw [himports]
    exact List.forall_mem_singleton.mpr (.unrooted (.own 1 (by decide)))
  have hheader : IsLocalPath ["Api"] := .plain (by decide)
  have hfixed : "Api" ∉ fixedNames := by decide
  obtain ⟨-, htypes⟩ := isNormal_iff_not_detours path detouredImport ["Api"] "Api" none
    hmodule hheader hfixed nofun
  have hshared : scope.absolute? ["Shared"] =
      some ⟨.target .entry, ["api", "super", "Shared"]⟩ := by decide
  have hdenoted : denoted? path ["Api"] (newestImports detouredImport) ["Shared"] =
      some ⟨.target .entry, ["Shared"]⟩ := by decide
  -- The import starts at `self` and climbs behind it, which is the detour.
  have hdetour : Detours (newestImports detouredImport) ["Shared"] := by
    rw [newestImports, himports]
    exact .imported (by decide) .own
  refine ⟨hmodule, hheader, hfixed, hshared, hdenoted, _, rfl, fun hnormal => ?_⟩
  have hproper : type.IsProper := by decide
  have hspelled : ∀ spelled ∈ type.spellings .type, spelled.IsTypePath := by
    exact List.forall_mem_singleton.mpr (.inl (.plain (by decide)))
  have hdirect := (htypes type _ hproper hspelled rfl).1.mp hnormal ⟨false, ["Shared"]⟩ (by decide)
  exact hdirect ⟨rfl, .inl hdetour⟩

end Qualifier

end RouteRegistrar
