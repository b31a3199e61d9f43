import RouteRegistrar.Proofs.Source.Walk

/-!
# The names of declared types

A declared type is named twice. Its methods refer to it by the path that its `impl` block stands
for; its full name is put together from the enclosing module of that path and the last name that the
block is written with. This module says when both are the same.

They differ for a type that is imported under another name, since the module comes from the type and
the name from the import. They also differ for a path with a single name at the root of all names,
which has no enclosing module, and for a path that consists of path keywords only.
-/

namespace RouteRegistrar

/-! ## Texts of paths -/

namespace ItemPath

/-- The enclosing module and `name` spell the path. No name in a source begins with colons, so the
second case is there for completeness only. -/
def EndsIn (path : ItemPath) (name : String) : Prop :=
  (path.segments.getLast? = some name ∧ path ≠ ⟨.everything, [name]⟩) ∨
    path = ⟨.everything, ["::" ++ name]⟩

private theorem intercalate_crate_ne_empty (segments : List String) :
    "::".intercalate ("crate" :: segments) ≠ "" := by
  cases segments with
  | nil => simp
  | cons first rest => simp

/-- A path starts with colons or with a name. -/
theorem text_ne_empty (path : ItemPath) (libraryName : Option String) :
    path.text libraryName ≠ "" := by
  obtain ⟨root, segments⟩ := path
  unfold text anchor
  cases root with
  | everything => simp
  | target target =>
    cases target <;> cases libraryName <;> simp [intercalate_crate_ne_empty]

/-- Only the root of all names has no name of its own. -/
theorem root_of_anchor_eq_nil {path : ItemPath} {libraryName : Option String}
    (h : (path.anchor libraryName).2 = []) : path.root = .everything := by
  obtain ⟨root, segments⟩ := path
  cases root with
  | everything => rfl
  | target target => cases target <;> cases libraryName <;> simp [anchor] at h

/-- In a module that has a name, the text of a path is that of the module and its own name. -/
theorem text_concat {root : PathRoot} {front : List String} (libraryName : Option String)
    (last : String) (h : root = .everything → front ≠ []) :
    (ItemPath.mk root (front ++ [last])).text libraryName =
      (ItemPath.mk root front).text libraryName ++ ("::" ++ last) := by
  -- Something stands in front, so the last name is behind two colons.
  have hfront : (anchor ⟨root, front⟩ libraryName).2 ++ front ≠ [] := by
    intro hempty
    obtain ⟨hanchor, hfront⟩ := List.append_eq_nil_iff.mp hempty
    exact h (root_of_anchor_eq_nil hanchor) hfront
  have hsame : anchor ⟨root, front ++ [last]⟩ libraryName = anchor ⟨root, front⟩ libraryName := rfl
  simp only [text, hsame]
  rw [← List.append_assoc, String.intercalate_append_of_ne_nil hfront (by simp)]
  simp [String.append_assoc]

/-- In a module that has a name, a path ends in its own name only. -/
theorem endsIn_concat_iff {root : PathRoot} {front : List String} {last name : String}
    (h : root = .everything → front ≠ []) :
    EndsIn ⟨root, front ++ [last]⟩ name ↔ last = name := by
  constructor
  · rintro (⟨hlast, -⟩ | heq)
    · simpa using hlast
    · obtain ⟨hroot, hsegments⟩ := ItemPath.mk.inj heq
      exact absurd (List.append_eq_singleton_iff.mp hsegments) (by simp [h hroot])
  · rintro rfl
    refine .inl ⟨by simp, fun heq => ?_⟩
    obtain ⟨hroot, hsegments⟩ := ItemPath.mk.inj heq
    exact absurd (List.append_eq_singleton_iff.mp hsegments) (by simp [h hroot])

/-- Names behind the root of a target end in the last one. -/
theorem endsIn_append {path : ItemPath} {names : List String} {name : String}
    (hroot : path.root ≠ .everything) (hlast : names.getLast? = some name) :
    (path.append names).EndsIn name := by
  refine .inl ⟨by simp [append, List.getLast?_append, hlast], fun heq => hroot ?_⟩
  exact (ItemPath.mk.inj heq).1

/-- The enclosing module of a path and a name spell the path exactly if the path ends in the
name. -/
theorem qualifiedName_parent_eq_text_iff (path : ItemPath) (name : String)
    (libraryName : Option String) :
    qualifiedName (some (path.parent.text libraryName)) name = path.text libraryName ↔
      path.EndsIn name := by
  have hname : ∀ module : ItemPath, qualifiedName (some (module.text libraryName)) name =
      module.text libraryName ++ ("::" ++ name) := by
    intro module
    simp [qualifiedName, text_ne_empty, String.append_assoc]
  rw [hname]
  obtain ⟨root, segments⟩ := path
  rcases List.eq_nil_or_concat segments with rfl | ⟨front, last, rfl⟩
  · -- The root of a target encloses itself, so a name behind it makes the text longer.
    have hparent : parent ⟨root, []⟩ = ⟨root, []⟩ := rfl
    constructor
    · intro h
      have hlength := congrArg String.length h
      simp [hparent] at hlength
    · intro h
      simp [EndsIn] at h
  · have hparent : parent ⟨root, front ++ [last]⟩ = ⟨root, front⟩ := by simp [parent]
    rw [List.concat_eq_append, hparent]
    by_cases hextern : root = .everything ∧ front = []
    · obtain ⟨rfl, rfl⟩ := hextern
      simp only [text, anchor, EndsIn]
      simp [eq_comm]
    · have hnamed : root = .everything → front ≠ [] := fun hroot hempty => hextern ⟨hroot, hempty⟩
      rw [text_concat libraryName last hnamed, endsIn_concat_iff hnamed, String.append_right_inj,
        String.append_right_inj]
      exact eq_comm

end ItemPath

/-! ## Spellings of a type -/

namespace ModuleScope

variable {scope : ModuleScope} {names : List String} {name : String}

/-- The names that a path cannot end in. -/
def pathKeywords : List String := ["crate", "self", "super"]

/-- A path that is written out: it ends in a name, and its first name is not imported. -/
structure WritesOut (scope : ModuleScope) (names : List String) (name : String) : Prop where
  first {first : String} : names.head? = some first → first ≠ "" ∧ scope.imported? first = none
  last : names.getLast? = some name
  isName : name ∉ pathKeywords

theorem root_ascend (path : ItemPath) (names : List String) :
    (ascend path names).1.root = path.root := by
  induction names generalizing path with
  | nil => rfl
  | cons first rest ih =>
    unfold ascend
    split
    · exact ih path.parent
    · rfl

private theorem getLast?_tail {first : String} {rest : List String}
    (hlast : (first :: rest).getLast? = some name) (hne : name ≠ first) :
    rest.getLast? = some name := by
  cases rest with
  | nil => exact absurd (by simpa using hlast) hne.symm
  | cons second rest => simpa using hlast

theorem getLast?_ascend (path : ItemPath) {names : List String}
    (hlast : names.getLast? = some name) (hne : name ≠ "super") :
    (ascend path names).2.getLast? = some name := by
  induction names generalizing path with
  | nil => exact hlast
  | cons first rest ih =>
    unfold ascend
    split
    -- Only `super` is taken away, and the last name is none.
    case isTrue hfirst => exact ih path.parent (getLast?_tail hlast (hfirst ▸ hne))
    case isFalse => exact hlast

/-- A path that is written out ends in the name it is written with, whichever keyword or module it
starts with. -/
theorem endsIn_selfPath (hroot : scope.path.root ≠ .everything)
    (h : scope.WritesOut names name) : (scope.selfPath names name).EndsIn name := by
  have hown : (scope.path.append [name]).EndsIn name := ItemPath.endsIn_append hroot rfl
  obtain ⟨hfirst, hlast, hname⟩ := h
  simp only [pathKeywords, List.mem_cons, List.not_mem_nil, or_false, not_or] at hname
  obtain ⟨hcrate, hself, hsuper⟩ := hname
  cases names with
  | nil => exact hown
  | cons first rest =>
    obtain ⟨hempty, himport⟩ := hfirst rfl
    rw [selfPath, resolve?]
    split
    -- A module takes a name that it does not know for one of its own.
    case isFalse => exact hown
    case isTrue hknows =>
      rw [absolute?, if_neg hempty]
      -- Behind a keyword there are names left, since the path does not end in a keyword.
      split
      case isTrue heq =>
        have hrest : rest.getLast? = some name := getLast?_tail hlast (heq ▸ hcrate)
        show (ItemPath.append ⟨scope.path.root, []⟩ rest).EndsIn name
        exact ItemPath.endsIn_append hroot hrest
      split
      case isTrue heq =>
        exact ItemPath.endsIn_append hroot (getLast?_tail hlast (heq ▸ hself))
      split
      case isTrue heq =>
        have hrest : rest.getLast? = some name := getLast?_tail hlast (heq ▸ hsuper)
        have hascend : (ascend scope.path.parent rest).1.root ≠ .everything := by
          rw [root_ascend]
          exact hroot
        exact ItemPath.endsIn_append hascend (getLast?_ascend _ hrest hsuper)
      split
      case isTrue => exact hown
      -- The name is known, but it is no keyword and not imported: the module declares it.
      case isFalse =>
        have hdeclared : scope.declared.contains first = true := by
          simpa [knows, himport, *] using hknows
        simp only [himport, if_pos hdeclared]
        exact ItemPath.endsIn_append hroot hlast

/-- An imported name stands for the type that it is imported from. -/
theorem selfPath_of_imported {first : String} {rest : List String} {path : ItemPath}
    (hfirst : first ∉ "" :: "Self" :: pathKeywords) (h : scope.imported? first = some path) :
    scope.selfPath (first :: rest) name = path.append rest := by
  simp only [pathKeywords, List.mem_cons, List.not_mem_nil, or_false, not_or] at hfirst
  obtain ⟨hempty, hSelf, hcrate, hself, hsuper⟩ := hfirst
  have hknows : scope.knows first = true := by simp [knows, h]
  rw [selfPath, resolve?, if_pos hknows, absolute?, if_neg hempty, if_neg hcrate, if_neg hself,
    if_neg hsuper, if_neg hSelf, h]
  rfl

end ModuleScope

/-! ## Declared types -/

namespace PackageLayout

/-- What the types in a block are qualified by: the scope of its module, and the path of its type in
place of `Self`. -/
def blockQualifier (layout : PackageLayout) (place : ModulePlace) (items : List SourceItem)
    (names : List String) (name : String) : Qualifier :=
  ⟨place.scope items, (place.scope items).selfPath names name, layout.libraryName⟩

/-- A declared type comes from an `impl` block of a module that a walk reaches. The block gives its
name, its markers, and its methods, with `Self` replaced by the path of the type. -/
structure DeclaredBy (layout : PackageLayout) (reader : SourceReader) (type : Declaration)
    (place : ModulePlace) (items : List SourceItem) (block : SourceBlock) (names : List String) :
    Prop where
  walks : layout.Walks reader place items
  mem : .block block ∈ items
  typeNames : block.typeNames = some names
  name : names.getLast? = some type.name
  markers : type.markers = block.markers
  methods : block.methods.mapM (Scan.method (layout.blockQualifier place items names type.name)) =
    .ok type.methods

/-- Every type of a program comes from a block, and its module path is that of the module which
encloses the type. -/
structure NamesTypes (layout : PackageLayout) (reader : SourceReader) (scan : Scan) : Prop where
  length_eq : scan.program.modulePaths.length = scan.program.types.length
  declared {type : Declaration} : type ∈ scan.program.types →
    type.id < scan.program.types.length ∧
    ∃ place items block names, layout.DeclaredBy reader type place items block names ∧
      scan.program.modulePathOf type.id =
        some ((layout.blockQualifier place items names type.name).selfType.parent.text
          layout.libraryName)

variable {layout : PackageLayout} {reader : SourceReader}

/-- Declaring one more type of a block keeps the origin of all types. -/
theorem NamesTypes.declare {place : ModulePlace} {items : List SourceItem} {block : SourceBlock}
    {names : List String} {name : String} {methods : List Method} {scan : Scan}
    (hscan : layout.NamesTypes reader scan) (hwalks : layout.Walks reader place items)
    (hblock : .block block ∈ items) (hnames : block.typeNames = some names)
    (hname : names.getLast? = some name)
    (hmethods : block.methods.mapM (Scan.method (layout.blockQualifier place items names name)) =
      .ok methods) :
    layout.NamesTypes reader (scan.declare (layout.setting reader place.target)
      ((place.scope items).selfPath names name) name block.markers methods) := by
  have hlength := hscan.length_eq
  constructor
  · simp [Scan.declare, Program.declare, hlength]
  · intro type hmem
    simp only [Scan.declare]
    rcases List.mem_append.mp hmem with hold | hnew
    · -- The number of an earlier type still leads to its own module path.
      obtain ⟨hid, origin⟩ := hscan.declared hold
      rw [Program.modulePathOf_declare_of_lt (hlength ▸ hid)]
      refine ⟨?_, origin⟩
      simp only [Program.declare, List.length_append]
      omega
    · rw [List.mem_singleton.mp hnew, Program.modulePathOf_declare_self hlength]
      refine ⟨by simp [Program.declare], place, items, block, names, ?_, rfl⟩
      exact ⟨hwalks, hblock, hnames, hname, rfl, hmethods⟩

/-- A scan keeps the origin of all types. -/
theorem namesTypes_invariant : Scan.Invariant layout reader (layout.NamesTypes reader) where
  declare hwalks hblock h hscan := by
    rcases Scan.declareBlock_cases h with rfl | ⟨names, name, methods, hnames, hname, hmethods, rfl⟩
    · exact hscan
    · exact hscan.declare hwalks hblock hnames hname hmethods
  read {place items scan} _ _ _ hscan := by
    obtain ⟨entryPoint, heq⟩ := Scan.withEntryPoint_eq (scan.record place.module.file)
      (layout.setting reader place.target) place.path items
    rw [heq]
    exact ⟨hscan.length_eq, hscan.declared⟩

theorem NamesTypes.empty : layout.NamesTypes reader .empty := ⟨rfl, nofun⟩

/-- **The full name of a declared type**: every type of a scanned package comes from a block, and
its module encloses the path that replaces `Self` in the methods of the block. Its full name is the
text of that path exactly if the path ends in the name of the type. So it is for every path that is
written out. A path whose first name is imported goes on from what the import stands for, and may
end in another name. -/
theorem qualifiedName_eq_selfType_iff {store : FileStore} {result : Scan}
    (h : layout.scanStore store = .ok result) {type : Declaration}
    (hmem : type ∈ result.program.types) :
    ∃ place items block names,
      layout.DeclaredBy store.reader type place items block names ∧
      let scope := place.scope items
      let self := (layout.blockQualifier place items names type.name).selfType
      result.program.modulePathOf type.id = some (self.parent.text layout.libraryName) ∧
        (qualifiedName (result.program.modulePathOf type.id) type.name =
          self.text layout.libraryName ↔ self.EndsIn type.name) ∧
        (scope.WritesOut names type.name → self.EndsIn type.name) ∧
        ∀ first rest path, names = first :: rest →
          first ∉ "" :: "Self" :: ModuleScope.pathKeywords → scope.imported? first = some path →
          self = path.append rest := by
  -- Every type of a scan comes from a block that the walk reaches.
  have hnames : layout.NamesTypes store.reader result := namesTypes_invariant.scan .empty h
  obtain ⟨-, place, items, block, names, hdeclared, hpath⟩ := hnames.declared hmem
  refine ⟨place, items, block, names, hdeclared, hpath, ?_, ?_, ?_⟩
  · rw [hpath]
    exact ItemPath.qualifiedName_parent_eq_text_iff ..
  · -- A module is in a target, so its path does not start among all names.
    have hroot : (place.scope items).path.root ≠ .everything := by
      rw [ModulePlace.scope, ModuleScope.path_ofItems]
      intro heq
      cases heq
    exact ModuleScope.endsIn_selfPath hroot
  · rintro first rest path rfl hfirst himport
    exact ModuleScope.selfPath_of_imported hfirst himport

/-- A type that is imported under another name: its methods know it as `crate::a::Foo`, but its full
name is `crate::a::Bar`. -/
theorem qualifiedName_of_renamed_import :
    let layout := PackageLayout.conventional ⟨"."⟩ none
    let store := (FileStore.empty.insert ["src", "main.rs"] (.file
      "mod a; use crate::a::Foo as Bar; impl Bar \x7b fn f(x: Self) \x7b\x7d \x7d".toUTF8)).insert
      ["src", "a.rs"] (.file "pub struct Foo;".toUTF8)
    let type : Declaration :=
      ⟨0, "Bar", [], [⟨"f", [], [⟨"x", "crate :: a :: Foo"⟩], false, false⟩]⟩
    ∃ result, layout.scanStore store = .ok result ∧ type ∈ result.program.types ∧
      qualifiedName (result.program.modulePathOf type.id) type.name = "crate::a::Bar" ∧
      ∃ place items block names,
        layout.DeclaredBy store.reader type place items block names ∧
        ("crate::a::Bar" = ((place.scope items).selfPath names type.name).text none ↔
          ((place.scope items).selfPath names type.name).EndsIn type.name) := by
  intro layout store type
  -- The block is written for `Bar`, while the import stands for `crate::a::Foo`.
  have hscan : (layout.scanStore store).toOption.map (·.program) =
      some ⟨[type], [some "crate::a"], none⟩ := by decide +kernel
  obtain ⟨result, h, hprogram⟩ := exists_ok_of_map_toOption hscan
  have hmem : type ∈ result.program.types := by
    rw [hprogram]
    exact List.mem_singleton_self type
  have hname : qualifiedName (result.program.modulePathOf type.id) type.name =
      "crate::a::Bar" := by
    rw [hprogram]
    rfl
  obtain ⟨place, items, block, names, hdeclared, -, hiff, -⟩ :=
    qualifiedName_eq_selfType_iff h hmem
  exact ⟨result, h, hmem, hname, place, items, block, names, hdeclared, hname ▸ hiff⟩

end PackageLayout

end RouteRegistrar
