import RouteRegistrar.Proofs.Source.RelativePaths

/-!
# The type behind `Self`

To qualify a type with `Self` in it should be to write the type of the block in place of `Self` and
to qualify the result. `Self` stands for a path of names only, so the two are the same for a block
whose type is written without arguments and without colons in front. For a block like
`impl Store<Id>` the arguments are lost.
-/

namespace RouteRegistrar

open Grammar

namespace Tree

/-! ## Writing the type of a block -/

/-- `Self` as a type. -/
def isOwnType : Tree → Bool
  | node .typePath [node .path [node .absent [], node .segment [word name, node .absent []]]] =>
    name = "Self"
  | _ => false

mutual

/-- A type with another one written in place of each `Self`. -/
def withSelf : Tree → Tree → Tree
  | node kind children, written =>
    if (node kind children).isOwnType then written else node kind (withSelfAll children written)
  | group delimiter content, written => group delimiter (withSelfAll content written)
  | leaf, _ => leaf

/-- Several trees with a type written in place of each `Self`. -/
def withSelfAll : List Tree → Tree → List Tree
  | [], _ => []
  | tree :: rest, written => tree.withSelf written :: withSelfAll rest written

end

theorem withSelfAll_eq_map (trees : List Tree) (written : Tree) :
    withSelfAll trees written = trees.map (·.withSelf written) := by
  induction trees with
  | nil => rfl
  | cons tree rest ih => rw [withSelfAll, List.map_cons, ih]

/-- `Self` as it is written. -/
def ownType : Tree := node .typePath [plainPath (word "Self")]

theorem eq_ownType {tree : Tree} (h : tree.isOwnType = true) : tree = ownType := by
  unfold isOwnType at h
  split at h
  case h_1 name =>
    obtain rfl : name = "Self" := by simpa using h
    rfl
  case h_2 => cases h

/-- The type in the header of a block, given the names and arguments of its path. -/
def headerType (rooted : Bool) (header : List (String × Tree)) : Tree :=
  node .typePath [pathOfSegments rooted (header.map namedSegment)]

/-- The parts of a path put together from segments. -/
theorem all_isPathPart_pathOfSegments {rooted : Bool} {header : List (String × Tree)}
    (hsuper : ∀ segment ∈ header, segment.1 = "super" → segment.2 = absent) :
    (pathOfSegments rooted (header.map namedSegment)).children.all isPathPart = true := by
  rw [List.all_eq_true, forall_mem_pathOfSegments (isPathPart · = true) rfl rfl,
    List.forall_mem_map]
  intro segment hsegment
  by_cases hname : segment.1 = "super"
  · simp [namedSegment, isPathPart, hsuper segment hsegment hname, absent, isMissing]
  · simp [namedSegment, isPathPart, hname]

theorem namedSegment_injective : Function.Injective namedSegment := by
  rintro ⟨name, arguments⟩ ⟨_, _⟩ h
  cases h
  rfl

/-- Types of blocks are told apart by how they are written. -/
theorem headerType_inj {rooted other : Bool} {header found : List (String × Tree)} :
    headerType rooted header = headerType other found ↔ rooted = other ∧ header = found := by
  constructor
  · intro h
    -- Both can be read off the path: the colons from its spelling, the header from its segments.
    have hpath : pathOfSegments rooted (header.map namedSegment) =
        pathOfSegments other (found.map namedSegment) := by
      injection h with _ hchildren
      exact List.head_eq_of_cons_eq hchildren
    have hsegments := congrArg segments hpath
    have hspelling := congrArg spelling hpath
    rw [segments_pathOfSegments, segments_pathOfSegments] at hsegments
    rw [spelling_pathOfSegments, spelling_pathOfSegments] at hspelling
    exact ⟨congrArg Spelling.isRooted hspelling,
      List.map_injective_iff.mpr namedSegment_injective hsegments⟩
  · rintro ⟨rfl, rfl⟩
    rfl

end Tree

namespace Qualifier

variable {qualifier : Qualifier} {written result : Tree}

/-- If `Self` and another type are qualified alike, so are all types with the one or the other. -/
theorem qualify_withSelf (h : qualifier.qualify written = qualifier.qualify Tree.ownType)
    (type : Tree) : qualifier.qualify (type.withSelf written) = qualifier.qualify type := by
  induction type using Tree.inductionOn with
  | leaf tree hleaf =>
    cases tree with
    | node | group => cases hleaf
    | _ => rfl
  | group delimiter content ih =>
    rw [Tree.withSelf, Tree.withSelfAll_eq_map, qualify, qualify, Tree.rewrite, Tree.rewrite,
      Tree.rewriteAll_map ih]
  | node kind children ih =>
    rw [Tree.withSelf]
    split
    -- This is where `Self` stood, and there the written type has the same result.
    case isTrue hself => rw [h, Tree.eq_ownType hself]
    case isFalse =>
      rw [Tree.withSelfAll_eq_map, qualify, qualify, Tree.rewrite, Tree.rewrite,
        Tree.rewriteAll_map ih]

/-- The path of a type is qualified behind its parts. -/
theorem qualify_typePath_eq_ok_iff {children : List Tree} :
    qualifier.qualify (.node .typePath [.node .path children]) = .ok result ↔
      ∃ results path, List.Forall₂ (fun tree result => qualifier.qualify tree = .ok result)
        children results ∧ qualifier.qualifyPath (.node .path results) = .ok path ∧
        result = .node .typePath [path] := by
  rw [qualify, Tree.rewrite_node_eq_ok_iff]
  -- The arguments are qualified first, and then the path that holds them.
  constructor
  · rintro ⟨_, hchildren, hstep⟩
    obtain ⟨found, _, hfound, hnil, rfl⟩ := List.forall₂_cons_left_iff.mp hchildren
    cases hnil
    obtain ⟨results, hresults, rfl⟩ := (qualify_node_eq_ok_iff (by decide) (by decide)).mp hfound
    obtain ⟨path, hpath, hresult⟩ := bind_eq_ok.mp hstep
    exact ⟨results, path, hresults, hpath, (Except.ok.inj hresult).symm⟩
  · rintro ⟨results, path, hresults, hpath, rfl⟩
    refine ⟨[.node .path results], .cons ?_ .nil, bind_eq_ok.mpr ⟨path, hpath, rfl⟩⟩
    exact (qualify_node_eq_ok_iff (by decide) (by decide)).mpr ⟨results, hresults, rfl⟩

/-- Nothing that is there becomes missing. -/
theorem eq_absent_iff_of_qualify {tree : Tree} (h : qualifier.qualify tree = .ok result) :
    result = .absent ↔ tree = .absent := by
  constructor
  · rintro rfl
    -- The kind stays, and without children in the result there were none before.
    obtain ⟨children, rfl⟩ := Tree.exists_of_isKind ((isKind_of_qualify h .absent).symm.trans rfl)
    obtain ⟨results, hresults, hsame⟩ := (qualify_node_eq_ok_iff (by decide) (by decide)).mp h
    cases hsame
    cases hresults
    rfl
  · rintro rfl
    exact eq_absent_of_qualify rfl h

/-- A segment with the same name and with qualified arguments. -/
def Carries (qualifier : Qualifier) (segment result : String × Tree) : Prop :=
  result.1 = segment.1 ∧ qualifier.qualify segment.2 = .ok result.2

/-- The segments of a path are qualified one by one, each of them in its arguments. -/
theorem carries_of_forall₂ {children results : List Tree} {header found : List (String × Tree)}
    (h : List.Forall₂ (fun tree result => qualifier.qualify tree = .ok result) children results)
    (hheader : segments (.node .path children) = header.map Tree.namedSegment)
    (hfound : segments (.node .path results) = found.map Tree.namedSegment) :
    List.Forall₂ qualifier.Carries header found := by
  have hkind : ∀ ⦃tree result⦄, qualifier.qualify tree = .ok result →
      (tree.isKind .segment = true ↔ result.isKind .segment = true) := by
    intro tree result hresult
    rw [isKind_of_qualify hresult]
  -- A result is a segment exactly if its tree is, so the segments correspond in order.
  have hsegments : List.Forall₂ (fun tree result => qualifier.qualify tree = .ok result)
      (segments (.node .path children)) (segments (.node .path results)) :=
    List.rel_filter (R := fun tree result => qualifier.qualify tree = .ok result) hkind h
  rw [hheader, hfound, List.forall₂_map_left_iff, List.forall₂_map_right_iff] at hsegments
  refine hsegments.imp fun (name, arguments) (other, qualified) hresult => ?_
  obtain ⟨_, hparts, hsame⟩ := (qualify_node_eq_ok_iff (by decide) (by decide)).mp hresult
  cases hsame
  obtain _ | ⟨hword, _ | ⟨harguments, _⟩⟩ := hparts
  cases hword
  exact ⟨rfl, harguments⟩

/-- The segments of a path have arguments where they had some. -/
theorem exists_arguments_iff {header found : List (String × Tree)}
    (h : List.Forall₂ qualifier.Carries header found) :
    (∃ segment ∈ found, segment.2 ≠ .absent) ↔ ∃ segment ∈ header, segment.2 ≠ .absent :=
  Tree.exists_mem_iff_of_forall₂ h
    fun _ _ _ hcarries => not_congr (eq_absent_iff_of_qualify hcarries.2)

/-- What is below a path put together from segments is qualified to such a path again, with the same
names and with qualified arguments. -/
theorem exists_carried {rooted : Bool} {header : List (String × Tree)} {results : List Tree}
    (hsuper : ∀ segment ∈ header, segment.1 = "super" → segment.2 = .absent)
    (h : List.Forall₂ (fun tree result => qualifier.qualify tree = .ok result)
      (Tree.pathOfSegments rooted (header.map Tree.namedSegment)).children results) :
    (Tree.node .path results).spelling = ⟨rooted, header.map (·.1)⟩ ∧
      ∃ found, segments (.node .path results) = found.map Tree.namedSegment ∧
        List.Forall₂ qualifier.Carries header found ∧
        ∀ segment ∈ found, segment.1 = "super" → segment.2 = .absent := by
  have hparts := all_isPathPart_of_forall₂ (Tree.all_isPathPart_pathOfSegments hsuper) h
  obtain ⟨found, hfound, hfoundSuper⟩ := Tree.exists_segments hparts
  have hspelling := (spelling_of_forall₂ h).trans (Tree.spelling_pathOfSegments rooted header)
  exact ⟨hspelling, found, hfound,
    carries_of_forall₂ h (Tree.segments_pathOfSegments rooted header) hfound, hfoundSuper⟩

/-- A path whose beginning is known is qualified to the names that it stands for, with arguments
exactly if it has some. -/
theorem exists_qualified_header (hqualifier : qualifier.IsWritten)
    {header : List (String × Tree)} {target : ItemPath}
    (hsuper : ∀ segment ∈ header, segment.1 = "super" → segment.2 = .absent)
    (hmeaning : qualifier.meaning? (header.map (·.1)) = some target) :
    ∃ qualified, qualifier.qualify (Tree.headerType false header) =
        .ok (Tree.headerType (target.anchor qualifier.libraryName).1 qualified) ∧
      qualified.map (·.1) = (target.spelling qualifier.libraryName).names ∧
      ((∃ segment ∈ qualified, segment.2 ≠ .absent) ↔ ∃ segment ∈ header, segment.2 ≠ .absent) := by
  obtain ⟨result, hresult⟩ := hqualifier.exists_qualify (Tree.headerType false header)
  obtain ⟨results, path, hresults, hpath, rfl⟩ := qualify_typePath_eq_ok_iff.mp hresult
  obtain ⟨hspelling, found, hfound, hcarries, hfoundSuper⟩ := exists_carried hsuper hresults
  -- Qualifying the arguments leaves the names as they are, so the path means the same.
  have hnames : (Tree.node .path results).pathNames = header.map (·.1) :=
    congrArg Spelling.names hspelling
  rw [← hnames, meaning?_eq_map_append, Option.map_eq_some_iff] at hmeaning
  obtain ⟨beginning, hbeginning, rfl⟩ := hmeaning
  obtain ⟨qualified, rfl, hqualified, hkept⟩ := exists_qualified_segments hfound hfoundSuper
    (congrArg Spelling.isRooted hspelling) hbeginning hpath
  refine ⟨qualified, hresult, ?_, ?_⟩
  · -- The names are those of the beginning and, behind them, those of the header.
    rw [hqualified, ItemPath.spelling, ItemPath.spelling, List.append_assoc]
    rfl
  · rw [hkept (hqualifier.namesBeginnings _ _ hbeginning) (· ≠ .absent) (not_not.mpr rfl)]
    exact exists_arguments_iff hcarries

/-- A path with colons in front and without arguments is not changed. -/
theorem qualify_rooted_names (names : List String) :
    qualifier.qualify (Tree.headerType true (names.map (·, Tree.absent))) =
      .ok (Tree.headerType true (names.map (·, Tree.absent))) := by
  refine qualify_typePath_eq_ok_iff.mpr ⟨_, _, List.forall₂_same.mpr ?_,
    qualifyPath_of_rooted ?_, rfl⟩
  · refine (Tree.forall_mem_pathOfSegments (fun tree => qualifier.qualify tree = .ok tree)
      rfl rfl).mpr fun tree htree => ?_
    simp only [List.map_map, List.mem_map] at htree
    obtain ⟨name, -, rfl⟩ := htree
    rfl
  · have hspelling := Tree.spelling_pathOfSegments true (names.map (·, Tree.absent))
    exact congrArg Spelling.isRooted hspelling

/-- A path with colons in front keeps its names and its arguments. -/
theorem qualify_rooted_header {header : List (String × Tree)} {names : List String}
    {rooted : Bool} :
    qualifier.qualify (Tree.headerType true header) =
        .ok (Tree.headerType rooted (names.map (·, Tree.absent))) ↔
      rooted = true ∧ names = header.map (·.1) ∧ ¬∃ segment ∈ header, segment.2 ≠ .absent := by
  constructor
  · intro h
    obtain ⟨results, path, hresults, hpath, hsame⟩ := qualify_typePath_eq_ok_iff.mp h
    have hspelling :=
      (spelling_of_forall₂ hresults).trans (Tree.spelling_pathOfSegments true header)
    -- A rooted path stays as it is, so the result is the header with its arguments qualified.
    rw [qualifyPath_of_rooted (congrArg Spelling.isRooted hspelling)] at hpath
    cases hpath
    obtain hresult : Tree.pathOfSegments rooted ((names.map (·, Tree.absent)).map
        Tree.namedSegment) = .node .path results := by
      injection hsame with _ hchildren
      exact List.head_eq_of_cons_eq hchildren
    rw [← hresult, Tree.spelling_pathOfSegments] at hspelling
    have hfound := Tree.segments_pathOfSegments rooted (names.map (·, Tree.absent))
    rw [hresult] at hfound
    refine ⟨congrArg Spelling.isRooted hspelling, ?_, ?_⟩
    · simpa [Function.comp_def] using congrArg Spelling.names hspelling
    · rw [← exists_arguments_iff (carries_of_forall₂ hresults
        (Tree.segments_pathOfSegments true header) hfound)]
      simp
  · rintro ⟨rfl, rfl, hnone⟩
    conv_lhs => rw [Tree.eq_map_absent hnone]
    exact qualify_rooted_names _

/-- `Self` is qualified to the names of the type of the block. -/
theorem qualify_ownType (hqualifier : qualifier.IsWritten) :
    qualifier.qualify Tree.ownType = .ok (Tree.headerType
      (qualifier.selfType.anchor qualifier.libraryName).1
      ((qualifier.selfType.spelling qualifier.libraryName).names.map (·, Tree.absent))) := by
  have hmeaning : qualifier.meaning? ([("Self", Tree.absent)].map (·.1)) =
      some qualifier.selfType := by
    simp [meaning?, ItemPath.append]
  obtain ⟨qualified, hresult, hnames, hkept⟩ :=
    exists_qualified_header hqualifier (by simp) hmeaning
  -- `Self` has no arguments, so there are none to keep.
  have hnone : ¬∃ segment ∈ qualified, segment.2 ≠ Tree.absent := by
    rw [hkept]
    simp
  rw [← hnames, ← Tree.eq_map_absent hnone]
  exact hresult

/-- **Where `Self` is the type in the header**: to write the type of the block for each `Self` and
then to qualify is the same as to qualify at once, for all types, exactly if the header has no
arguments and, where there are colons in front of it, already is the full path of the type. -/
theorem qualify_withSelf_iff (path : ItemPath) (items : List SourceItem) (rooted : Bool)
    (header : List (String × Tree)) (last : String) (target : ItemPath)
    (libraryName : Option String) (hmodule : ModuleScope.IsWrittenModule path items)
    (hheader : AreWritable (header.map (·.1)))
    (hsuper : ∀ segment ∈ header, segment.1 = "super" → segment.2 = .absent)
    (hlibrary : ∀ name ∈ libraryName, ItemPath.isWritable name = true)
    (htarget : (ModuleScope.ofItems path items).resolve? (header.map (·.1)) = some target) :
    let scope := ModuleScope.ofItems path items
    let qualifier : Qualifier := ⟨scope, scope.selfPath (header.map (·.1)) last, libraryName⟩
    (∀ type, qualifier.qualify (type.withSelf (Tree.headerType rooted header)) =
        qualifier.qualify type) ↔
      (∀ segment ∈ header, segment.2 = .absent) ∧
        (rooted = true → target.spelling libraryName = ⟨true, header.map (·.1)⟩) := by
  intro scope qualifier
  have hself : qualifier.selfType = target := by
    show scope.selfPath (header.map (·.1)) last = target
    rw [ModuleScope.selfPath, htarget, Option.getD_some]
  have hqualifier : qualifier.IsWritten :=
    ⟨hmodule.ofItems, hself ▸ hmodule.ofItems.of_resolve? hheader htarget, hlibrary⟩
  have hmeaning : qualifier.meaning? (header.map (·.1)) = some target := by
    rw [meaning?, if_neg ?_, htarget]
    intro hhead
    obtain ⟨rest, hnames⟩ := List.head?_eq_some_iff.mp hhead
    rw [hnames] at htarget
    cases (ModuleScope.resolve?_eq_some_iff.mp htarget).2
  -- It is enough to compare `Self` itself with the header.
  have hown : (∀ type, qualifier.qualify (type.withSelf (Tree.headerType rooted header)) =
      qualifier.qualify type) ↔
      qualifier.qualify (Tree.headerType rooted header) = qualifier.qualify Tree.ownType :=
    ⟨fun h => h Tree.ownType, qualify_withSelf⟩
  rw [hown, qualify_ownType hqualifier, hself]
  have hnone : (∀ segment ∈ header, segment.2 = .absent) ↔
      ¬∃ segment ∈ header, segment.2 ≠ .absent := by
    simp
  rw [hnone]
  cases rooted with
  | true =>
    rw [qualify_rooted_header]
    constructor
    · rintro ⟨hanchor, hnames, hheaderNone⟩
      exact ⟨hheaderNone, fun _ => congr (congrArg Spelling.mk hanchor) hnames⟩
    · rintro ⟨hheaderNone, hspelling⟩
      exact ⟨congrArg Spelling.isRooted (hspelling rfl),
        congrArg Spelling.names (hspelling rfl), hheaderNone⟩
  | false =>
    obtain ⟨qualified, hresult, hnames, hkept⟩ :=
      exists_qualified_header hqualifier hsuper hmeaning
    rw [hresult, Except.ok.injEq, Tree.headerType_inj, and_iff_right rfl, ← hkept, ← hnames,
      and_iff_left (fun h => Bool.noConfusion h)]
    constructor
    · intro hsame
      rw [hsame]
      simp
    · exact Tree.eq_map_absent

/-- A module with a type that has a parameter. -/
def storeModule : List SourceItem := [.declaration "Id", .declaration "Store"]

/-- The header `Store<Id>`. -/
def storeHeader : List (String × Tree) :=
  [("Store", .node .angleArguments [.absent, .op "<",
    .node .punctuated [.node .typePath [plainPath (.word "Id")]], .op ">"])]

/-- In a block for `Store<Id>`, `Self` loses its argument. -/
theorem qualify_ownType_of_generic_block :
    let path : ItemPath := ⟨.target .entry, ["api"]⟩
    let scope := ModuleScope.ofItems path storeModule
    let qualifier : Qualifier := ⟨scope, scope.selfPath ["Store"] "Store", none⟩
    ModuleScope.IsWrittenModule path storeModule ∧
      scope.resolve? ["Store"] = some ⟨.target .entry, ["api", "Store"]⟩ ∧
      qualifier.qualify Tree.ownType = .ok (Tree.headerType false
        [("crate", .absent), ("api", .absent), ("Store", .absent)]) ∧
      ¬∀ type, qualifier.qualify (type.withSelf (Tree.headerType false storeHeader)) =
        qualifier.qualify type := by
  intro path scope qualifier
  have hmodule : ModuleScope.IsWrittenModule path storeModule :=
    ⟨nofun, by decide, by decide, by decide, nofun⟩
  have hresolve : scope.resolve? ["Store"] = some ⟨.target .entry, ["api", "Store"]⟩ := by decide
  refine ⟨hmodule, hresolve, rfl, fun hall => ?_⟩
  -- By the theorem the header would have no arguments, but it has.
  have hplain := ((qualify_withSelf_iff path storeModule false storeHeader "Store"
    ⟨.target .entry, ["api", "Store"]⟩ none hmodule (by decide) ?_ nofun hresolve).mp hall).1
  · cases hplain _ (List.mem_singleton_self _)
  · exact List.forall_mem_singleton.mpr fun hname => absurd hname (by decide)

end Qualifier

end RouteRegistrar
