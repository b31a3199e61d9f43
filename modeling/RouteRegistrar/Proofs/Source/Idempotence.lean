import RouteRegistrar.Proofs.Source.OwnType
import RouteRegistrar.Proofs.Source.SelfType

/-!
# Qualifying a type twice

A qualified type is a type again. To qualify it once more changes nothing: a path with colons in
front is not looked at, a name that the module does not know stays unknown, and `crate` stands for
the target of the module, which is spelled `crate` again.

The last point needs that a path of one target is not qualified in a module of the other one. It
holds since all that a module can name lies in its own target or behind the root of all names.
-/

namespace RouteRegistrar

open Grammar

/-! ## Targets of paths -/

namespace ModuleScope

variable {scope : ModuleScope} {path found : ItemPath} {names : List String}

/-- A path into the target of the module, or one that starts at the root of all names. -/
def Anchors (scope : ModuleScope) (found : ItemPath) : Prop :=
  found.root = scope.path.root ∨ found.root = .everything

/-- No import leads into another target. -/
def IsAnchored (scope : ModuleScope) : Prop := ∀ entry ∈ scope.imports, scope.Anchors entry.2

/-- What a name stands for lies in the target of the module or outside of both targets. -/
theorem IsAnchored.meaning (h : scope.IsAnchored) (name : String) :
    scope.Anchors (scope.meaning name) :=
  meaning_cases h (.inl rfl) (.inr rfl)

/-- No path leads into another target if no import does. -/
theorem IsAnchored.of_absolute? (h : scope.IsAnchored)
    (hfound : scope.absolute? names = some found) : scope.Anchors found := by
  cases names with
  | nil => cases hfound
  | cons first rest =>
    by_cases hfixed : first ∈ fixedNames
    · simp only [fixedNames, List.mem_cons, List.not_mem_nil, or_false] at hfixed
      rcases hfixed with rfl | rfl | rfl | rfl | rfl
      · cases hfound
        exact .inr rfl
      · cases hfound
        exact .inl rfl
      · cases hfound
        exact .inl rfl
      · -- Each step up stays in the target, also at its root.
        cases hfound
        exact .inl (root_ascend scope.path.parent rest)
      · cases hfound
    · rw [absolute?_of_not_fixed hfixed] at hfound
      exact Option.some.inj hfound ▸ h.meaning first

theorem IsAnchored.of_resolve? (h : scope.IsAnchored)
    (hfound : scope.resolve? names = some found) : scope.Anchors found :=
  h.of_absolute? (absolute?_of_resolve? hfound)

theorem IsAnchored.selfPath (h : scope.IsAnchored) (header : List String) (last : String) :
    scope.Anchors (scope.selfPath header last) := by
  rw [ModuleScope.selfPath]
  cases hfound : scope.resolve? header with
  | some found => exact h.of_resolve? hfound
  | none => exact .inl rfl

/-- A path without colons in front is spelled from `crate`, and `crate` itself is spelled so. -/
theorem Anchors.anchor_eq {libraryName : Option String} (h : scope.Anchors found)
    (hrooted : (found.anchor libraryName).1 = false) :
    found.anchor libraryName = (false, ["crate"]) ∧
      ItemPath.anchor ⟨scope.path.root, []⟩ libraryName = (false, ["crate"]) := by
  -- A path among all names would be written behind two colons.
  have hroot : found.root = scope.path.root := by
    refine h.resolve_right fun heverything => ?_
    simp [ItemPath.anchor, heverything] at hrooted
  have hcrate : found.anchor libraryName = (false, ["crate"]) := by
    unfold ItemPath.anchor at hrooted ⊢
    split at hrooted
    case h_1 => cases hrooted
    case h_2 => rfl
    case h_3 => cases hrooted
  have hsame : ItemPath.anchor ⟨scope.path.root, []⟩ libraryName = found.anchor libraryName := by
    unfold ItemPath.anchor
    rw [hroot]
  exact ⟨hcrate, hsame.trans hcrate⟩

theorem IsAnchored.bind (h : scope.IsAnchored) (i : Import) : (scope.bind i).IsAnchored := by
  unfold ModuleScope.bind addImport
  split
  case h_1 hsome hfound =>
    exact List.forall_mem_cons.mpr ⟨h.of_absolute? hfound, h⟩
  case h_2 => exact h

/-- The imports of a module do not lead into another target. -/
theorem isAnchored_ofItems (path : ItemPath) (items : List SourceItem) :
    (ofItems path items).IsAnchored := by
  have hstart : (beforeImports path items).IsAnchored := nofun
  rw [ofItems_eq_withImports, withImports]
  generalize items.flatMap (·.imports) = imports
  generalize beforeImports path items = start at hstart
  induction imports generalizing start with
  | nil => exact hstart
  | cons first rest ih => exact ih (start.bind first) (hstart.bind first)

end ModuleScope

namespace Qualifier

variable {qualifier : Qualifier} {found : ItemPath} {names : List String}
  {type path result : Tree}

/-- No path leads from the module into another target, and neither does `Self`. -/
structure IsAnchored (qualifier : Qualifier) : Prop where
  scope : qualifier.scope.IsAnchored
  selfType : qualifier.scope.Anchors qualifier.selfType

theorem IsAnchored.target? (h : qualifier.IsAnchored)
    (hfound : qualifier.target? names = some found) : qualifier.scope.Anchors found := by
  rw [Qualifier.target?] at hfound
  split at hfound
  case isTrue => exact Option.some.inj hfound ▸ h.selfType
  case isFalse => exact h.scope.of_resolve? hfound

/-! ## What is kept -/

/-- A tree that is the same once it is qualified. -/
def Keeps (qualifier : Qualifier) (tree : Tree) : Prop := qualifier.qualify tree = .ok tree

theorem keeps_leaf (h : type.isLeaf = true) : qualifier.Keeps type := Tree.rewrite_leaf h

/-- Apart from types and receivers, a node is kept if what is below it is kept. -/
theorem keeps_node_iff {kind : Kind} {children : List Tree} (htype : kind ≠ .typePath)
    (hreceiver : kind ≠ .receiver) :
    qualifier.Keeps (.node kind children) ↔ ∀ child ∈ children, qualifier.Keeps child := by
  rw [Keeps, qualify_node_eq_ok_iff htype hreceiver]
  -- Such a node is kept if its children are, since the step leaves it alone.
  constructor
  · rintro ⟨results, hresults, hsame⟩
    cases hsame
    have hkept : ∀ child ∈ children, qualifier.qualify child = .ok child :=
      List.forall₂_same.mp hresults
    exact hkept
  · intro hchildren
    exact ⟨children, List.forall₂_same.mpr hchildren, rfl⟩

/-- A node is kept if what is below it is kept, and the node itself needs no step. -/
theorem keeps_node_of_step {kind : Kind} {children : List Tree}
    (hchildren : ∀ child ∈ children, qualifier.Keeps child)
    (hstep : qualifier.step kind children = .ok (.node kind children)) :
    qualifier.Keeps (.node kind children) :=
  Tree.rewrite_node_eq_ok_iff.mpr ⟨children, List.forall₂_same.mpr hchildren, hstep⟩

theorem keeps_absent : qualifier.Keeps .absent :=
  (keeps_node_iff (by decide) (by decide)).mpr nofun

theorem keeps_namedSegment_iff {segment : String × Tree} :
    qualifier.Keeps (.namedSegment segment) ↔ qualifier.Keeps segment.2 := by
  rw [Tree.namedSegment, keeps_node_iff (by decide) (by decide), List.forall_mem_cons,
    List.forall_mem_singleton]
  exact and_iff_right (keeps_leaf rfl)

/-! ## Qualified paths -/

/-- The arguments that stay with a path are kept if its segments are. -/
theorem keeps_keptArguments (h : ∀ tree ∈ segments path, qualifier.Keeps tree) :
    qualifier.Keeps (keptArguments path) := by
  rw [keptArguments]
  -- The arguments that are kept belong to one of the segments, or there are none.
  cases hlast : ((segments path).take (resolvedCount path.pathNames)).getLast? with
  | none => exact keeps_absent
  | some last =>
    have hkept := h last (List.mem_of_mem_take (List.mem_of_getLast? hlast))
    rw [Option.map_some, Option.getD_some]
    unfold Tree.segmentArguments
    split
    case h_1 =>
      exact (keeps_node_iff (by decide) (by decide)).mp hkept _ (by simp)
    case h_2 => exact keeps_absent

/-- What is below a path is kept when the path is qualified. -/
theorem keeps_children_of_qualifyPath {children : List Tree}
    (hchildren : ∀ child ∈ children, qualifier.Keeps child)
    (h : qualifier.qualifyPath (.node .path children) = .ok result) :
    ∃ results, result = .node .path results ∧ ∀ child ∈ results, qualifier.Keeps child := by
  have hsegments : ∀ tree ∈ segments (.node .path children), qualifier.Keeps tree :=
    fun tree htree => hchildren tree (List.mem_of_mem_filter htree)
  cases hrooted : (Tree.node .path children).spelling.isRooted with
  | true =>
    rw [qualifyPath_of_rooted hrooted] at h
    exact ⟨children, (Except.ok.inj h).symm, hchildren⟩
  | false =>
    cases hfound : qualifier.target? (Tree.node .path children).pathNames with
    | none =>
      rw [qualifyPath_of_unknown hfound] at h
      exact ⟨children, (Except.ok.inj h).symm, hchildren⟩
    | some found =>
      obtain ⟨-, rfl⟩ := (qualifyPath_eq_ok_iff hrooted hfound).mp h
      refine ⟨_, rfl,
        (Tree.forall_mem_pathOfSegments qualifier.Keeps (keeps_leaf rfl) keeps_absent).mpr ?_⟩
      intro tree htree
      rcases List.mem_append.mp htree with hfront | hbehind
      · obtain ⟨segment, hsegment, rfl⟩ := List.mem_map.mp hfront
        rw [keeps_namedSegment_iff]
        by_contra hother
        -- Missing arguments are kept, so these are the arguments of the beginning.
        have hmem := (Tree.exists_mem_withArguments (¬qualifier.Keeps ·)
          (not_not.mpr keeps_absent)).mp ⟨segment, hsegment, hother⟩
        exact hmem.2 (keeps_keptArguments hsegments)
      · exact hsegments tree (List.mem_of_mem_drop hbehind)

/-- A path that starts at `crate`, which is spelled `crate`, is not changed. -/
theorem qualifyPath_crate {arguments : Tree} {trees : List Tree}
    (htrees : ∀ tree ∈ trees, tree.isKind .segment = true)
    (hcrate : ItemPath.anchor ⟨qualifier.scope.path.root, []⟩ qualifier.libraryName =
      (false, ["crate"])) :
    let path := Tree.pathOfSegments false (.namedSegment ("crate", arguments) :: trees)
    qualifier.qualifyPath path = .ok path := by
  intro path
  have hsegments : segments path = .namedSegment ("crate", arguments) :: trees :=
    Tree.segments_pathOfSegments_of_isKind false (List.forall_mem_cons.mpr ⟨rfl, htrees⟩)
  obtain ⟨rest, hnames⟩ : ∃ rest, path.pathNames = "crate" :: rest := by
    rw [Tree.pathNames, hsegments]
    exact ⟨_, rfl⟩
  have hcount : resolvedCount path.pathNames = 1 := by
    rw [hnames]
    rfl
  -- `crate` is resolved by itself, to the root of the module.
  have hfound : qualifier.target? path.pathNames = some ⟨qualifier.scope.path.root, []⟩ := by
    rw [target?, hcount, hnames]
    rfl
  -- Written down, this root is `crate` once more.
  have hbeginning : ItemPath.segmentTrees ⟨qualifier.scope.path.root, []⟩ qualifier.libraryName =
      .ok [.namedSegment ("crate", .absent)] := by
    rw [ItemPath.segmentTrees_eq_ok_iff, ItemPath.spelling, hcrate]
    exact ⟨List.forall_mem_singleton.mpr (by decide), rfl⟩
  have hkept : keptArguments path = arguments := by
    rw [keptArguments, hcount, hsegments]
    rfl
  rw [qualifyPath_of_known rfl hfound, hbeginning, hcrate, hkept, hcount, hsegments]
  rfl

/-- A qualified path is not changed when it is qualified again. -/
theorem IsAnchored.qualifyPath_again (hqualifier : qualifier.IsAnchored)
    (h : qualifier.qualifyPath path = .ok result) : qualifier.qualifyPath result = .ok result := by
  cases hrooted : path.spelling.isRooted with
  | true =>
    have hsame : qualifier.qualifyPath path = .ok path := qualifyPath_of_rooted hrooted
    cases hsame.symm.trans h
    exact hsame
  | false =>
    cases hfound : qualifier.target? path.pathNames with
    | none =>
      have hsame := qualifyPath_of_unknown hfound
      cases hsame.symm.trans h
      exact hsame
    | some found =>
      obtain ⟨-, rfl⟩ := (qualifyPath_eq_ok_iff hrooted hfound).mp h
      cases hanchor : (found.anchor qualifier.libraryName).1 with
      | true => exact qualifyPath_of_rooted rfl
      | false =>
        -- The first segment is `crate`, with the arguments that it may have been given.
        obtain ⟨hcrate, hsame⟩ := (hqualifier.target? hfound).anchor_eq hanchor
        have hnames := Tree.map_fst_withArguments (found.spelling qualifier.libraryName).names
          (keptArguments path)
        conv_rhs at hnames => rw [ItemPath.spelling, hcrate]
        obtain ⟨⟨name, arguments⟩, more, hsegments, hname, -⟩ := List.map_eq_cons_iff.mp hnames
        rw [hsegments]
        obtain rfl : name = "crate" := hname
        refine qualifyPath_crate (fun tree htree => ?_) hsame
        rcases List.mem_append.mp htree with hmore | hbehind
        · obtain ⟨segment, -, rfl⟩ := List.mem_map.mp hmore
          rfl
        · exact List.of_mem_filter (List.mem_of_mem_drop hbehind)

/-! ## Qualified types -/

/-- The path of a type is kept once it is qualified. -/
theorem IsAnchored.keeps_typePath (hqualifier : qualifier.IsAnchored) {children : List Tree}
    (hchildren : ∀ child ∈ children, qualifier.Keeps child)
    (h : qualifier.qualifyPath (.node .path children) = .ok path) :
    qualifier.Keeps (.node .typePath [path]) := by
  have hagain := hqualifier.qualifyPath_again h
  obtain ⟨results, rfl, hresults⟩ := keeps_children_of_qualifyPath hchildren h
  refine keeps_node_of_step (List.forall_mem_singleton.mpr ?_) ?_
  · exact (keeps_node_iff (by decide) (by decide)).mpr hresults
  · exact bind_eq_ok.mpr ⟨_, hagain, rfl⟩

/-- What a step makes of a node is kept if what is below the node is kept. -/
theorem IsAnchored.keeps_step (hqualifier : qualifier.IsAnchored) {kind : Kind}
    {children : List Tree} (hchildren : ∀ child ∈ children, qualifier.Keeps child)
    (h : qualifier.step kind children = .ok result) : qualifier.Keeps result := by
  rcases step_eq_ok_cases h with ⟨own, reference, name, mutability, self, missing, type, path, rfl,
      rfl, hpath, rfl⟩ | ⟨segments, path, rfl, rfl, hpath, rfl⟩ | ⟨-, rfl⟩
  · -- The type of a receiver is written out behind a colon, and there it stays.
    simp only [List.forall_mem_cons] at hchildren
    obtain ⟨hown, hreference, hname, hmutability, hself, -⟩ := hchildren
    have hsegment : qualifier.Keeps (.namedSegment ("Self", .absent)) :=
      keeps_namedSegment_iff.mpr keeps_absent
    have htype := hqualifier.keeps_typePath
      (List.forall_mem_cons.mpr ⟨keeps_absent, List.forall_mem_singleton.mpr hsegment⟩) hpath
    have hreceiver : qualifier.Keeps
        (receiverType (.node .typePath [path]) reference name mutability) := by
      unfold receiverType
      split
      case isTrue => exact htype
      case isFalse =>
        rw [keeps_node_iff (by decide) (by decide)]
        simp only [List.forall_mem_cons]
        exact ⟨hreference, hname, hmutability, htype, nofun⟩
    refine keeps_node_of_step ?_ rfl
    simp only [List.forall_mem_cons]
    exact ⟨hown, hreference, hname, hmutability, hself, keeps_leaf rfl, hreceiver, nofun⟩
  · exact hqualifier.keeps_typePath
      ((keeps_node_iff (by decide) (by decide)).mp (hchildren _ (List.mem_singleton_self _))) hpath
  · exact keeps_node_of_step hchildren h

/-- A qualified type is kept. -/
theorem IsAnchored.keeps_of_qualify (hqualifier : qualifier.IsAnchored)
    (h : qualifier.qualify type = .ok result) : qualifier.Keeps result := by
  induction type using Tree.inductionOn generalizing result with
  | leaf tree hleaf =>
    have hsame : qualifier.Keeps tree := keeps_leaf hleaf
    cases hsame.symm.trans h
    exact hsame
  -- What is below is kept by induction, so only the step of a node is left.
  | group delimiter content ih =>
    obtain ⟨results, hresults, rfl⟩ := Tree.rewrite_group_eq_ok_iff.mp h
    have hkept : ∀ result ∈ results, qualifier.Keeps result :=
      Tree.forall_mem_of_forall₂ hresults fun tree htree _ => ih tree htree
    exact Tree.rewrite_group_eq_ok_iff.mpr ⟨results, List.forall₂_same.mpr hkept, rfl⟩
  | node kind children ih =>
    obtain ⟨results, hresults, hstep⟩ := Tree.rewrite_node_eq_ok_iff.mp h
    exact hqualifier.keeps_step
      (Tree.forall_mem_of_forall₂ hresults fun tree htree _ => ih tree htree) hstep

/-! ## Types in blocks -/

open ModuleScope in
/-- In a module whose names are identifiers, all types in a block can be qualified. -/
theorem isWritten_of_block {path : ItemPath} {items : List SourceItem} {header : List String}
    {last : String} {libraryName : Option String} (hmodule : IsWrittenModule path items)
    (hheader : AreWritable header) (hlast : header.getLast? = some last)
    (hlibrary : ∀ name ∈ libraryName, ItemPath.isWritable name = true) :
    (Qualifier.mk (ofItems path items) ((ofItems path items).selfPath header last)
      libraryName).IsWritten := by
  refine ⟨hmodule.ofItems, ?_, hlibrary⟩
  rw [selfPath]
  -- The handler type is what its header stands for, or else an item of the module.
  cases hfound : (ofItems path items).resolve? header with
  | some found => exact hmodule.ofItems.of_resolve? hheader hfound
  | none =>
    have hname := hheader last (List.mem_of_getLast? hlast)
    refine ItemPath.IsWritten.append ⟨?_, hmodule.ofItems.path⟩
      (List.forall_mem_singleton.mpr hname)
    exact ItemPath.isNamed_of_root hmodule.ofItems.root_ne

open ModuleScope in
/-- **Qualifying twice is qualifying once**: in every module of either target, for every block in it
and every library name, a qualified type is left as it is when it is qualified again. Where all
names are identifiers, every type can be qualified in the first place. -/
theorem qualify_qualify (path : ItemPath) (items : List SourceItem) (header : List String)
    (last : String) (libraryName : Option String) (type : Tree) :
    let scope := ofItems path items
    let qualifier : Qualifier := ⟨scope, scope.selfPath header last, libraryName⟩
    (∀ result, qualifier.qualify type = .ok result → qualifier.qualify result = .ok result) ∧
      (IsWrittenModule path items → AreWritable header → header.getLast? = some last →
        (∀ name ∈ libraryName, ItemPath.isWritable name = true) →
        ∃ result, qualifier.qualify type = .ok result) := by
  intro scope qualifier
  have hscope : scope.IsAnchored := isAnchored_ofItems path items
  -- Whatever the module imports, a full path is written so that it is found again.
  have hqualifier : qualifier.IsAnchored := ⟨hscope, hscope.selfPath header last⟩
  constructor
  · intro result hresult
    exact hqualifier.keeps_of_qualify hresult
  · intro hmodule hheader hlast hlibrary
    exact (isWritten_of_block hmodule hheader hlast hlibrary).exists_qualify type

/-- A module that imports an item of the enclosing module under another name. -/
def renamedImport : List SourceItem :=
  [.use false (.path "super" (.rename "Shared" "Kept")), .declaration "Api"]

/-- The type `Kept<(Self, Kept, Other)>`. -/
def nestedType : Tree :=
  Tree.headerType false [("Kept", .node .angleArguments [.absent, .op "<",
    .node .punctuated [.node .typeTuple [.group .parenthesis [.node .punctuated
      [Tree.ownType, .op ",", Tree.headerType false [("Kept", .absent)], .op ",",
        Tree.headerType false [("Other", .absent)]]]]], .op ">"])]

/-- In a named library, all paths that the module knows get colons in front. -/
theorem qualify_qualify_of_library_block :
    let path : ItemPath := ⟨.target .library, ["api"]⟩
    let scope := ModuleScope.ofItems path renamedImport
    let qualifier : Qualifier := ⟨scope, scope.selfPath ["Api"] "Api", some "site"⟩
    let result := Tree.headerType true [("site", .absent), ("Shared", .node .angleArguments
      [.absent, .op "<", .node .punctuated [.node .typeTuple [.group .parenthesis [.node .punctuated
        [Tree.headerType true [("site", .absent), ("api", .absent), ("Api", .absent)], .op ",",
          Tree.headerType true [("site", .absent), ("Shared", .absent)], .op ",",
          Tree.headerType false [("Other", .absent)]]]]], .op ">"])]
    qualifier.qualify nestedType = .ok result ∧ qualifier.qualify result = .ok result := by
  intro path scope qualifier result
  have hresult : qualifier.qualify nestedType = .ok result := rfl
  exact ⟨hresult,
    (qualify_qualify path renamedImport ["Api"] "Api" (some "site") nestedType).1 result hresult⟩

end Qualifier

end RouteRegistrar
