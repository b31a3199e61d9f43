import RouteRegistrar.Proofs.Source.ImportOrder
import RouteRegistrar.Proofs.Source.Qualification

/-!
# Names of the module in qualified types

A qualified type is written down at the root of the entry target, where the names of its module mean
something else or nothing. Only paths that are types are made absolute. The path of a trait, in a
bound or behind `as`, stays as written, and so does every name in it that only the module knows.
-/

namespace RouteRegistrar

/-- Whether a path means something in its module only: it starts at the module, or at a name that
the module imports or declares. -/
def ModuleScope.IsRelative (scope : ModuleScope) (spelled : Spelling) : Prop :=
  spelled.isRooted = false ∧ ∃ first ∈ spelled.names.head?, first = "self" ∨ first = "super" ∨
    first ≠ "crate" ∧ ((scope.imported? first).isSome = true ∨ first ∈ scope.declared)

/-! ## Names that can be written -/

/-- Names that are all identifiers. -/
def AreWritable (names : List String) : Prop := ∀ name ∈ names, ItemPath.isWritable name = true

instance (names : List String) : Decidable (AreWritable names) :=
  List.decidableBAll (fun name => ItemPath.isWritable name = true) names

/-- A path of an import, made of identifiers. An empty first name stands for two colons in front. -/
inductive IsWrittenPath : List String → Prop where
  | rooted {first : String} {rest : List String} : AreWritable (first :: rest) →
      IsWrittenPath ("" :: first :: rest)
  | unrooted {names : List String} : AreWritable names → IsWrittenPath names

/-- A full path that can be written down. -/
structure ItemPath.IsWritten (path : ItemPath) : Prop where
  isNamed : path.IsNamed
  names : AreWritable path.segments

theorem ItemPath.IsWritten.append {path : ItemPath} (h : path.IsWritten) {rest : List String}
    (hrest : AreWritable rest) : (path.append rest).IsWritten :=
  ⟨isNamed_append h.isNamed rest, List.forall_mem_append.mpr ⟨h.names, hrest⟩⟩

namespace ModuleScope

variable {scope : ModuleScope} {path found : ItemPath} {items : List SourceItem}
  {names : List String}

/-- A module whose names are identifiers. -/
structure IsWrittenModule (path : ItemPath) (items : List SourceItem) : Prop where
  root_ne : path.root ≠ .everything
  path : AreWritable path.segments
  declared : AreWritable (items.filterMap declaredName?)
  imported : AreWritable (items.flatMap (·.importedNames))
  paths : ∀ i ∈ items.flatMap (·.imports), IsWrittenPath i.path

/-- A scope whose names, and all that they stand for, can be written down. -/
structure IsWritten (scope : ModuleScope) : Prop where
  root_ne : scope.path.root ≠ .everything
  path : AreWritable scope.path.segments
  declared : AreWritable scope.declared
  imports : ∀ entry ∈ scope.imports, ItemPath.isWritable entry.1 = true ∧ entry.2.IsWritten

theorem IsWritten.isWritable_of_imported? (h : scope.IsWritten) {name : String}
    (hfound : scope.imported? name = some found) :
    ItemPath.isWritable name = true ∧ found.IsWritten := by
  obtain ⟨entry, hentry, rfl⟩ := Option.map_eq_some_iff.mp hfound
  obtain rfl : entry.1 = name := by simpa using List.find?_some hentry
  exact h.imports entry (List.mem_of_find?_eq_some hentry)

/-- What a name stands for can be written down. -/
theorem IsWritten.meaning (h : scope.IsWritten) {name : String}
    (hname : ItemPath.isWritable name = true) : (scope.meaning name).IsWritten := by
  have hsingle : AreWritable [name] := List.forall_mem_singleton.mpr hname
  have hpath : scope.path.IsWritten := ⟨ItemPath.isNamed_of_root h.root_ne, h.path⟩
  exact meaning_cases (fun entry hentry => (h.imports entry hentry).2) (hpath.append hsingle)
    ⟨fun _ => List.cons_ne_nil _ _, hsingle⟩

/-- Going up and on from the module leads to a path that can be written down. -/
theorem IsWritten.ancestor_append (h : scope.IsWritten) (hnames : AreWritable names) (ups : Nat) :
    ((scope.path.ancestor ups).append names).IsWritten :=
  ⟨ItemPath.isNamed_of_root h.root_ne,
    List.forall_mem_append.mpr ⟨fun name hname => h.path name (List.mem_of_mem_take hname), hnames⟩⟩

/-- A path of identifiers is made absolute by a path that can be written down. -/
theorem IsWritten.of_absolute? (h : scope.IsWritten) (hnames : IsWrittenPath names)
    (hfound : scope.absolute? names = some found) : found.IsWritten := by
  cases hnames with
  | rooted hnames =>
    cases hfound
    exact ⟨fun _ => List.cons_ne_nil _ _, hnames⟩
  | unrooted hnames =>
    -- A run of `super` leads to an ancestor, whose names are a part of those of the module.
    obtain ⟨ups, tail, rfl, htail⟩ := exists_climbs names
    have htailNames : AreWritable tail := (List.forall_mem_append.mp hnames).2
    cases ups with
    | succ ups =>
      rw [absolute?_climbs scope ups htail] at hfound
      exact Option.some.inj hfound ▸ h.ancestor_append htailNames (ups + 1)
    | zero =>
      rw [List.replicate_zero, List.nil_append] at hfound
      cases tail with
      | nil => cases hfound
      | cons first rest =>
        obtain ⟨hfirst, hrest⟩ := List.forall_mem_cons.mp htailNames
        -- Other names than keywords stand for an import or for an item of the module.
        by_cases hfixed : first ∈ fixedNames
        · simp only [fixedNames, List.mem_cons, List.not_mem_nil, or_false] at hfixed
          -- The empty name cannot be written, and `Self` has no absolute form.
          rcases hfixed with rfl | rfl | rfl | rfl | rfl
          · exact absurd hfirst (by decide)
          · cases hfound
            exact ⟨ItemPath.isNamed_of_root h.root_ne, hrest⟩
          · cases hfound
            exact ⟨ItemPath.isNamed_of_root h.root_ne, List.forall_mem_append.mpr ⟨h.path, hrest⟩⟩
          · exact absurd rfl htail
          · cases hfound
        · rw [absolute?_of_not_fixed hfixed] at hfound
          exact Option.some.inj hfound ▸ (h.meaning hfirst).append hrest

/-- An import of identifiers keeps a scope that can be written down. -/
theorem IsWritten.bind (h : scope.IsWritten) {i : Import}
    (hname : ItemPath.isWritable i.name = true) (hpath : IsWrittenPath i.path) :
    (scope.bind i).IsWritten := by
  unfold ModuleScope.bind addImport
  -- An import that names nothing, or that leads nowhere, leaves the scope as it is.
  split
  case h_1 name found hsome hfound =>
    cases hsome
    refine ⟨h.root_ne, h.path, h.declared, ?_⟩
    exact List.forall_mem_cons.mpr ⟨⟨hname, h.of_absolute? hpath hfound⟩, h.imports⟩
  case h_2 => exact h

/-- The scope of a module whose names are identifiers can be written down. -/
theorem IsWrittenModule.ofItems (h : IsWrittenModule path items) :
    (ModuleScope.ofItems path items).IsWritten := by
  have hstart : (beforeImports path items).IsWritten := ⟨h.root_ne, h.path, h.declared, nofun⟩
  have himports : ∀ i ∈ items.flatMap (·.imports),
      ItemPath.isWritable i.name = true ∧ IsWrittenPath i.path :=
    fun i hi => ⟨h.imported i.name (name_mem_importedNames hi), h.paths i hi⟩
  rw [ofItems_eq_withImports, withImports]
  -- By induction over the imports: each one is added to a scope that can be written.
  generalize items.flatMap (·.imports) = imports at himports
  generalize beforeImports path items = start at hstart
  induction imports generalizing start with
  | nil => exact hstart
  | cons first rest ih =>
    obtain ⟨hfirst, hrest⟩ := List.forall_mem_cons.mp himports
    exact ih hrest (start.bind first) (hstart.bind hfirst.1 hfirst.2)

/-- A path of identifiers is resolved by a path that can be written down. -/
theorem IsWritten.of_resolve? (h : scope.IsWritten) (hnames : AreWritable names)
    (hfound : scope.resolve? names = some found) : found.IsWritten := by
  cases names with
  | nil => cases hfound
  | cons first rest => exact h.of_absolute? (.unrooted hnames) (resolve?_eq_some_iff.mp hfound).2

/-- The names of a path that the module knows are identifiers up to where they are resolved. -/
theorem IsWritten.resolved (h : scope.IsWritten)
    (hfound : scope.resolve? (names.take (Qualifier.resolvedCount names)) = some found) :
    found.IsWritten := by
  -- What is resolved together is a run of `super`, nothing, or one known name.
  rcases take_resolvedCount_cases names with ⟨ups, hsupers⟩ | hnil | ⟨first, -, hfirst⟩
  · have hwritable : AreWritable (List.replicate (ups + 1) "super") := by
      intro name hname
      rw [List.eq_of_mem_replicate hname]
      decide
    rw [hsupers] at hfound
    exact h.of_absolute? (.unrooted hwritable) (resolve?_eq_some_iff.mp hfound).2
  · rw [hnil] at hfound
    cases hfound
  · rw [hfirst] at hfound
    obtain ⟨hknows, hfound⟩ := resolve?_eq_some_iff.mp hfound
    refine h.of_absolute? (.unrooted (List.forall_mem_singleton.mpr ?_)) hfound
    simp only [knows, Bool.or_eq_true, decide_eq_true_eq] at hknows
    -- A known name is a keyword, an import or a declared item, and each of them can be written.
    obtain (((rfl | rfl) | rfl) | himported) | hdeclared := hknows
    · decide
    · decide
    · decide
    · obtain ⟨target, htarget⟩ := Option.isSome_iff_exists.mp himported
      exact (h.isWritable_of_imported? htarget).1
    · exact h.declared first (by simpa using hdeclared)

end ModuleScope

namespace Qualifier

open ModuleScope

variable {qualifier : Qualifier} {found : ItemPath} {names : List String}

/-- A qualifier whose names, and all that they stand for, can be written down. -/
structure IsWritten (qualifier : Qualifier) : Prop where
  scope : qualifier.scope.IsWritten
  selfType : qualifier.selfType.IsWritten
  library : ∀ name ∈ qualifier.libraryName, ItemPath.isWritable name = true

theorem IsWritten.target? (h : qualifier.IsWritten)
    (hfound : qualifier.target? names = some found) : found.IsWritten := by
  rw [Qualifier.target?] at hfound
  split at hfound
  case isTrue => exact Option.some.inj hfound ▸ h.selfType
  case isFalse => exact h.scope.resolved hfound

theorem IsWritten.namesBeginnings (h : qualifier.IsWritten) : qualifier.NamesBeginnings :=
  fun _ _ hfound => ItemPath.spelling_names_ne_nil (h.target? hfound).isNamed _

/-- A full path of identifiers is spelled by identifiers. -/
theorem IsWritten.spelling (h : qualifier.IsWritten) (hfound : found.IsWritten) :
    AreWritable (found.spelling qualifier.libraryName).names := by
  refine List.forall_mem_append.mpr ⟨?_, hfound.names⟩
  have hlibrary := h.library
  unfold ItemPath.anchor
  split
  case h_1 name _ hname => exact List.forall_mem_singleton.mpr (hlibrary name hname)
  case h_2 => exact List.forall_mem_singleton.mpr (by decide)
  case h_3 => exact nofun

/-- Every path can be qualified. -/
theorem IsWritten.exists_qualifyPath (h : qualifier.IsWritten) (path : Tree) :
    ∃ result, qualifier.qualifyPath path = .ok result := by
  by_cases hrooted : path.spelling.isRooted = true
  · exact ⟨path, qualifyPath_of_rooted hrooted⟩
  · cases hfound : qualifier.target? path.pathNames with
    | none => exact ⟨path, qualifyPath_of_unknown hfound⟩
    | some found =>
      -- Only a path that is replaced could fail, at a name that cannot be written.
      have hnames := h.spelling (h.target? hfound)
      rw [qualifyPath_of_known (by simpa using hrooted) hfound,
        ItemPath.segmentTrees_eq_ok_iff.mpr ⟨hnames, rfl⟩]
      exact ⟨_, rfl⟩

/-- Every type can be qualified. -/
theorem IsWritten.exists_qualify (h : qualifier.IsWritten) (type : Tree) :
    ∃ result, qualifier.qualify type = .ok result := by
  refine Tree.exists_rewrite (fun kind children => ?_) type
  unfold step
  -- A step fails only where it qualifies a path: the type `Self` or the path of a type.
  split
  case h_1 =>
    obtain ⟨path, hpath⟩ := h.exists_qualifyPath (Grammar.plainPath (.word "Self"))
    rw [hpath]
    exact ⟨_, rfl⟩
  case h_2 segments =>
    obtain ⟨path, hpath⟩ := h.exists_qualifyPath (.node .path segments)
    rw [hpath]
    exact ⟨_, rfl⟩
  case h_3 => exact ⟨_, rfl⟩

/-! ## Relative paths -/

/-- What a path stands for is not spelled relative to the module. -/
theorem not_isRelative_spelling (scope : ModuleScope) (found : ItemPath)
    (libraryName : Option String) : ¬scope.IsRelative (found.spelling libraryName) := by
  -- A full path is spelled behind two colons or behind `crate`.
  have hanchor : (found.anchor libraryName).1 = true ∨
      found.anchor libraryName = (false, ["crate"]) := by
    unfold ItemPath.anchor
    split
    case h_1 => exact .inl rfl
    case h_2 => exact .inr rfl
    case h_3 => exact .inl rfl
  rintro ⟨hrooted, first, hfirst, hrelative⟩
  rcases hanchor with htrue | hcrate
  · exact Bool.noConfusion (htrue.symm.trans hrooted)
  · obtain rfl : "crate" = first := by simpa [ItemPath.spelling, hcrate] using hfirst
    rcases hrelative with h | h | h
    · exact absurd h (by decide)
    · exact absurd h (by decide)
    · exact h.1 rfl

/-- A path that the module does not resolve is not relative to it. -/
theorem not_isRelative_of_resolve? {scope : ModuleScope} {spelled : Spelling}
    (hself : spelled.names.head? ≠ some "Self") (h : scope.resolve? spelled.names = none) :
    ¬scope.IsRelative spelled := by
  rintro ⟨-, first, hfirst, hrelative⟩
  obtain ⟨rest, hnames⟩ : ∃ rest, spelled.names = first :: rest :=
    List.head?_eq_some_iff.mp hfirst
  rw [hnames] at hself h
  -- A relative path starts at a name that the scope knows, and `resolve?` finds these names.
  have hknows : scope.knows first = true := by
    rcases hrelative with rfl | rfl | ⟨-, himported | hdeclared⟩
    · rfl
    · rfl
    · simp [knows, himported]
    · simp [knows, hdeclared]
  rw [resolve?, if_pos hknows] at h
  -- Of the names that the scope knows, none but `Self` is without an absolute form.
  by_cases hfixed : first ∈ fixedNames
  · simp only [fixedNames, List.mem_cons, List.not_mem_nil, or_false] at hfixed
    rcases hfixed with rfl | rfl | rfl | rfl | rfl
    · cases h
    · cases h
    · cases h
    · cases h
    · exact hself rfl
  · rw [absolute?_of_not_fixed hfixed] at h
    cases h

/-- A path that is a type is not relative once it is qualified. -/
theorem not_isRelative_respell (spelled : Spelling) :
    ¬qualifier.scope.IsRelative (qualifier.respell .type spelled) := by
  rw [respell]
  -- A path is kept if it is rooted or unknown, and neither is relative; else it is spelled in full.
  split
  case isTrue hrooted => exact fun hrelative => Bool.noConfusion (hrooted.symm.trans hrelative.1)
  case isFalse =>
    cases hmeaning : qualifier.meaning? spelled.names with
    | some found => exact not_isRelative_spelling qualifier.scope found qualifier.libraryName
    | none =>
      rw [meaning?] at hmeaning
      split at hmeaning
      case isTrue => cases hmeaning
      case isFalse hself => exact not_isRelative_of_resolve? hself hmeaning

/-- **Which names of the module a qualified type is free of**: every type is qualified, and then no
path that is a type starts at the module or at a name of it. The type is free of such paths
altogether exactly if the paths of its traits were free of them to begin with. -/
theorem qualify_complete_iff (path : ItemPath) (items : List SourceItem) (header : List String)
    (last : String) (libraryName : Option String) (type : Tree)
    (hmodule : IsWrittenModule path items) (hheader : AreWritable header)
    (hlast : header.getLast? = some last)
    (hlibrary : ∀ name ∈ libraryName, ItemPath.isWritable name = true) (htype : type.IsProper) :
    let scope := ofItems path items
    ∃ result, (Qualifier.mk scope (scope.selfPath header last) libraryName).qualify type =
        .ok result ∧
      (∀ spelled ∈ result.spellings .type, ¬scope.IsRelative spelled) ∧
      ((∀ use, ∀ spelled ∈ result.spellings use, ¬scope.IsRelative spelled) ↔
        ∀ use, use ≠ .type → ∀ spelled ∈ type.spellings use, ¬scope.IsRelative spelled) := by
  intro scope
  have hscope : scope.IsWritten := hmodule.ofItems
  -- The handler type is what its header stands for, or an item of the module by that name.
  have hself : (scope.selfPath header last).IsWritten := by
    rw [selfPath]
    cases hfound : scope.resolve? header with
    | some found => exact hscope.of_resolve? hheader hfound
    | none =>
      have hname := hheader last (List.mem_of_getLast? hlast)
      exact ⟨ItemPath.isNamed_of_root hscope.root_ne,
        List.forall_mem_append.mpr ⟨hscope.path, List.forall_mem_singleton.mpr hname⟩⟩
  have hqualifier : (Qualifier.mk scope (scope.selfPath header last) libraryName).IsWritten :=
    ⟨hscope, hself, hlibrary⟩
  obtain ⟨result, hresult⟩ := hqualifier.exists_qualify type
  -- The paths of the result are the old ones, spelled anew by their use.
  have hspellings := mem_spellings_qualify hqualifier.namesBeginnings htype hresult
  -- A path of a type is not relative once it is spelled anew.
  have htypes : ∀ spelled ∈ result.spellings .type, ¬scope.IsRelative spelled := by
    intro spelled hspelled
    obtain ⟨old, -, rfl⟩ := (hspellings .type spelled).mp hspelled
    exact not_isRelative_respell old
  -- The path of a trait is spelled as before, so it decides about the result as about the source.
  have htraits : ∀ use, use ≠ .type → ∀ spelled,
      spelled ∈ result.spellings use ↔ spelled ∈ type.spellings use :=
    fun use => mem_spellings_trait hqualifier.namesBeginnings htype hresult
  refine ⟨result, hresult, htypes, ?_⟩
  -- Hence relative paths are left in the result exactly if they are the paths of traits.
  constructor
  · intro hall use huse spelled hspelled
    exact hall use spelled ((htraits use huse spelled).mpr hspelled)
  · intro hall use spelled hspelled
    by_cases huse : use = .type
    · exact htypes spelled (huse ▸ hspelled)
    · exact hall use huse spelled ((htraits use huse spelled).mp hspelled)

/-- A module with a trait and a type. -/
def handlerModule : List SourceItem := [.declaration "Handler", .declaration "Api"]

/-- The trait of a bound is still looked for in the module. -/
theorem qualify_of_declared_trait :
    let path : ItemPath := ⟨.target .entry, ["api"]⟩
    let scope := ofItems path handlerModule
    let type := Tree.node .typeTraitObject [.word "dyn", .node .punctuated
      [.node .traitBound [.absent, .absent, Grammar.plainPath (.word "Handler")]]]
    IsWrittenModule path handlerModule ∧ type.IsProper ∧
      (Qualifier.mk scope (scope.selfPath ["Api"] "Api") none).qualify type = .ok type ∧
      ¬∀ use, ∀ spelled ∈ type.spellings use, ¬scope.IsRelative spelled := by
  intro path scope type
  have hmodule : IsWrittenModule path handlerModule :=
    ⟨nofun, by decide, by decide, by decide, nofun⟩
  have htype : type.IsProper := by decide
  obtain ⟨result, hresult, -, hiff⟩ := qualify_complete_iff path handlerModule ["Api"] "Api" none
    type hmodule (by decide) rfl nofun htype
  -- The type holds the path of a trait only, so it is its own result.
  have hsame : (Qualifier.mk scope (scope.selfPath ["Api"] "Api") none).qualify type =
      .ok type := rfl
  obtain rfl : type = result := Except.ok.inj (hsame.symm.trans hresult)
  refine ⟨hmodule, htype, hsame, fun hall => ?_⟩
  exact hiff.mp hall .bound nofun ⟨false, ["Handler"]⟩ (by decide)
    ⟨rfl, "Handler", rfl, .inr (.inr ⟨by decide, .inr (by decide)⟩)⟩

end Qualifier

end RouteRegistrar
