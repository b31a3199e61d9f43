import RouteRegistrar.Proofs.Files.Kinds
import RouteRegistrar.Proofs.Source.Unfolding

/-!
# Inlining modules

A module that has a file of its own may be written in place instead, with the items of its file. It
keeps its child modules, since the directory for their files depends on names only, and it keeps its
scope and its place in the order of declarations.

Hence both packages become the same when all their modules are put in place (`Unfolds.inlines`), and
a scan finds the same program in them.
-/

namespace RouteRegistrar

/-- The items of a module with some modules put in place: those whose file is chosen. The items of
such a file are changed in the same way. -/
inductive Inlines (reader : SourceReader) (chosen : FilePath → Bool) :
    ModuleFile → List SourceItem → List SourceItem → Prop where
  | nil {module : ModuleFile} : Inlines reader chosen module [] []
  | other {module : ModuleFile} {item : SourceItem} {rest more : List SourceItem} :
      item.isModule = false → Inlines reader chosen module rest more →
      Inlines reader chosen module (item :: rest) (item :: more)
  | inline {module : ModuleFile} {name : String} {path : Option String}
      {inner inlined rest more : List SourceItem} :
      Inlines reader chosen (module.enter (.inline name path)) inner inlined →
      Inlines reader chosen module rest more →
      Inlines reader chosen module (.inlineModule name path inner :: rest)
        (.inlineModule name path inlined :: more)
  /-- A module stays as it is if no file is found for it, or if its file is not chosen. -/
  | keep {module : ModuleFile} {name : String} {path : Option String}
      {rest more : List SourceItem} :
      (∀ file, module.locate? reader.isFile name path = some file → chosen file = false) →
      Inlines reader chosen module rest more →
      Inlines reader chosen module (.fileModule name path :: rest) (.fileModule name path :: more)
  | replace {module : ModuleFile} {name : String} {path : Option String} {file : FilePath}
      {inner inlined rest more : List SourceItem} :
      module.locate? reader.isFile name path = some file → chosen file = true →
      reader.read file = .ok inner →
      Inlines reader chosen (module.enter (.file name path file)) inner inlined →
      Inlines reader chosen module rest more →
      Inlines reader chosen module (.fileModule name path :: rest)
        (.inlineModule name path inlined :: more)

namespace PackageLayout

/-- A package results from another one by putting the modules with the chosen files in place. The
root file is none of them. The chosen files may stay or go, all other files stay, and each other
file that belongs to a module now holds the changed items. -/
structure InlinesFiles (layout : PackageLayout) (reader other : SourceReader)
    (chosen : FilePath → Bool) : Prop where
  isFile_of {path : FilePath} : other.isFile path = true → reader.isFile path = true
  isFile_kept {path : FilePath} : reader.isFile path = true → chosen path = false →
    other.isFile path = true
  root {file : FilePath} : layout.rootFile? .entry = some file → chosen file = false
  read {place : ModulePlace} {items : List SourceItem} : layout.Finds reader place →
    chosen place.module.file = false → reader.read place.module.file = .ok items →
    ∃ inlined, other.read place.module.file = .ok inlined ∧
      Inlines reader chosen place.module items inlined

variable {layout : PackageLayout} {reader other : SourceReader} {chosen : FilePath → Bool}

namespace InlinesFiles

variable {parent twin : ModuleFile} {name : String} {file : FilePath}

/-- A module that is not found in the one package is not found in the other one. -/
theorem locate?_eq_none (h : layout.InlinesFiles reader other chosen)
    (hchildren : twin.children = parent.children)
    (hlocate : parent.locate? reader.isFile name none = none) :
    twin.locate? other.isFile name none = none := by
  -- The candidates depend on the directory of the children only.
  have hcandidates : twin.candidates name none = parent.candidates name none := by
    simp only [ModuleFile.candidates, hchildren]
  rw [ModuleFile.locate?, hcandidates, Option.map_eq_none_iff, List.find?_eq_none]
  intro child hmem hfile
  have hmissing := List.find?_eq_none.mp (ModuleFile.find?_of_locate?_eq_none hlocate) child hmem
  exact hmissing (h.isFile_of hfile)

/-- A file that stays is found again. -/
theorem locate?_eq_some (h : layout.InlinesFiles reader other chosen)
    (hchildren : twin.children = parent.children)
    (hlocate : parent.locate? reader.isFile name none = some file) (hkept : chosen file = false) :
    twin.locate? other.isFile name none = some file := by
  have hcandidates : twin.candidates name none = parent.candidates name none := by
    simp only [ModuleFile.candidates, hchildren]
  obtain ⟨child, hfind, rfl⟩ := Option.map_eq_some_iff.mp hlocate
  rw [ModuleFile.locate?, hcandidates, Option.map_eq_some_iff]
  refine ⟨child, ?_, rfl⟩
  obtain ⟨hfile, before, behind, hsplit, hbefore⟩ := List.find?_eq_some_iff_append.mp hfind
  rw [List.find?_eq_some_iff_append]
  refine ⟨h.isFile_kept hfile hkept, before, behind, hsplit, fun earlier hmem => ?_⟩
  -- What is no file in the one package is none in the other one.
  cases hother : other.isFile earlier.file with
  | false => rfl
  | true => exact absurd (h.isFile_of hother) (by simpa using hbefore earlier hmem)

end InlinesFiles

/-- Items of a module that a walk comes to, and the module that they stand in after inlining. Both
modules have the files of their child modules in the same directory. -/
structure Twins (layout : PackageLayout) (reader : SourceReader) (parent twin : ModuleFile)
    (items : List SourceItem) : Prop where
  walks : ∃ place all, place.module = parent ∧ layout.Walks reader place all ∧
    ∀ item ∈ items, item ∈ all
  children : twin.children = parent.children

namespace Twins

variable {parent twin : ModuleFile} {item : SourceItem} {inner rest : List SourceItem}
  {name : String} {path : FilePath}

theorem tail (h : layout.Twins reader parent twin (item :: rest)) :
    layout.Twins reader parent twin rest := by
  obtain ⟨place, all, hplace, hwalks, hmem⟩ := h.walks
  exact ⟨⟨place, all, hplace, hwalks, (List.forall_mem_cons.mp hmem).2⟩, h.children⟩

theorem inline (h : layout.Twins reader parent twin (.inlineModule name none inner :: rest)) :
    layout.Twins reader (parent.enter (.inline name none)) (twin.enter (.inline name none))
      inner := by
  obtain ⟨place, all, rfl, hwalks, hmem⟩ := h.walks
  refine ⟨⟨_, inner, rfl, hwalks.inline (List.forall_mem_cons.mp hmem).1, fun _ h => h⟩, ?_⟩
  change twin.children.join ⟨name⟩ = place.module.children.join ⟨name⟩
  rw [h.children]

/-- The walk comes to the module of a file that is found. -/
theorem finds (h : layout.Twins reader parent twin (.fileModule name none :: rest))
    (hlocate : parent.locate? reader.isFile name none = some path) :
    ∃ place, place.module = parent.enter (.file name none path) ∧ place.module.file = path ∧
      layout.Finds reader place := by
  obtain ⟨place, all, rfl, hwalks, hmem⟩ := h.walks
  exact ⟨_, rfl, rfl, .file hwalks (List.forall_mem_cons.mp hmem).1 hlocate⟩

/-- The files of child modules are in the same directory, wherever the module itself stands. -/
theorem file (h : layout.Twins reader parent twin (.fileModule name none :: rest))
    (hlocate : parent.locate? reader.isFile name none = some path)
    (hread : reader.read path = .ok inner) {next : ModuleFile}
    (hnext : next.children = twin.children.join ⟨name⟩) :
    layout.Twins reader (parent.enter (.file name none path)) next inner := by
  obtain ⟨place, hplace, rfl, hfinds⟩ := h.finds hlocate
  refine ⟨⟨place, inner, hplace, hfinds.walks hread, fun _ h => h⟩, ?_⟩
  rw [hnext, h.children]
  rfl

end Twins

namespace InlinesFiles

/-- **Inlined modules unfold to the same items**, and the files that are put in place are those that
have not been inlined. -/
theorem unfolds (h : layout.InlinesFiles reader other chosen) {parent : ModuleFile}
    {items full : List SourceItem} {files : List FilePath}
    (hunfolds : Unfolds reader parent items full files) :
    ∀ {inlined : List SourceItem} {twin : ModuleFile}, layout.Twins reader parent twin items →
      Inlines reader chosen parent items inlined →
      Unfolds other twin inlined full (files.filter (!chosen ·)) := by
  induction hunfolds with
  | nil =>
    intro inlined twin _ hinlines
    cases hinlines
    exact .nil
  | other hitem _ ih =>
    intro inlined twin htwins hinlines
    cases hinlines with
    | other _ hrest => exact .other hitem (ih htwins.tail hrest)
    | inline | keep | replace => cases hitem
  | inline _ _ ihinner ih =>
    intro inlined twin htwins hinlines
    cases hinlines with
    | other hitem => cases hitem
    | inline hinner hrest =>
      rw [List.filter_append]
      exact .inline (ihinner htwins.inline hinner) (ih htwins.tail hrest)
  | missing hlocate _ ih =>
    intro inlined twin htwins hinlines
    cases hinlines with
    | other hitem => cases hitem
    | keep _ hrest =>
      exact .missing (h.locate?_eq_none htwins.children hlocate) (ih htwins.tail hrest)
    | replace hfound =>
      rw [hlocate] at hfound
      cases hfound
  | @file parent name file inner full rest more below files hlocate hread _ _ ihinner ih =>
    intro inlined twin htwins hinlines
    cases hinlines with
    | other hitem => cases hitem
    | keep hkept hrest =>
      -- The file is read in both packages, and what it names unfolds to the same items.
      have hkept := hkept file hlocate
      obtain ⟨place, hplace, rfl, hfinds⟩ := htwins.finds hlocate
      obtain ⟨innerInlined, hother, hinner⟩ := h.read hfinds hkept hread
      rw [hplace] at hinner
      rw [List.filter_cons_of_pos (by simp [hkept]), List.filter_append]
      exact .file (h.locate?_eq_some htwins.children hlocate hkept) hother
        (ihinner (htwins.file hlocate hread rfl) hinner) (ih htwins.tail hrest)
    | replace hfound hchosen hinnerRead hinner hrest =>
      -- The items of the file stand in its place, so it is not read any more.
      cases hlocate.symm.trans hfound
      cases hread.symm.trans hinnerRead
      rw [List.filter_cons_of_neg (by simp [hchosen]), List.filter_append]
      exact .inline (ihinner (htwins.file hlocate hread rfl) hinner) (ih htwins.tail hrest)

/-- A target without a root file in the one package has none in the other one. -/
theorem filter_rootFile?_eq_none (h : layout.InlinesFiles reader other chosen) {target : Target}
    (hnone : (layout.rootFile? target).filter reader.isFile = none) :
    (layout.rootFile? target).filter other.isFile = none := by
  rw [Option.filter_eq_none_iff] at hnone ⊢
  exact fun file hroot hfile => hnone file hroot (h.isFile_of hfile)

/-- The root file stays, with items that unfold as before. -/
theorem unfolds_root (h : layout.InlinesFiles reader other chosen) {root : FilePath}
    {items full : List SourceItem} {files : List FilePath}
    (hroot : layout.rootFile? .entry = some root) (hfile : reader.isFile root = true)
    (hread : reader.read root = .ok items)
    (hunfolds : Unfolds reader (.ofRoot root) items full files) :
    other.isFile root = true ∧ ∃ inlined, other.read root = .ok inlined ∧
      Unfolds other (.ofRoot root) inlined full (files.filter (!chosen ·)) := by
  have hkept := h.root hroot
  have hfinds : layout.Finds reader ⟨.entry, root, []⟩ := .root hroot hfile
  obtain ⟨inlined, hother, hinlines⟩ := h.read hfinds hkept hread
  -- The root is at the same place in both stores, and from there the unfolding goes on.
  have htwins : layout.Twins reader (.ofRoot root) (.ofRoot root) items :=
    ⟨⟨_, items, rfl, hfinds.walks hread, fun _ hitem => hitem⟩, rfl⟩
  exact ⟨h.isFile_kept hfile hkept, inlined, hother, h.unfolds hunfolds htwins hinlines⟩

end InlinesFiles

/-- A package without root files has nothing to scan. -/
theorem scan_of_missing_roots {fuel : Nat}
    (h : ∀ target, (layout.rootFile? target).filter reader.isFile = none) :
    layout.scan reader fuel = .ok .empty := by
  simp only [scan, scanTarget, h]
  rfl

/-- **Inlining modules changes nothing**: if the modules of a package form a tree, then putting any
of its module files in place gives a package where a scan finds the same program, with the same
types in the same order and the same entry point. It reads the same files in the same order, but for
those that have been put in place. -/
theorem scanStore_of_inlinesFiles {layout : PackageLayout} {store other : FileStore}
    {chosen : FilePath → Bool} (htree : layout.HasModuleTree store.reader)
    (h : layout.InlinesFiles store.reader other.reader chosen) :
    (layout.scanStore other).map (fun result => (result.program, result.files)) =
      (layout.scanStore store).map fun result =>
        (result.program, result.files.filter (!chosen ·)) := by
  have hlibrary := h.filter_rootFile?_eq_none htree.noLibrary
  cases hentry : (layout.rootFile? .entry).filter store.reader.isFile with
  | none =>
    have hmissing : ∀ target, (layout.rootFile? target).filter store.reader.isFile = none
      | .library => htree.noLibrary
      | .entry => hentry
    rw [scanStore, scanStore, scan_of_missing_roots hmissing,
      scan_of_missing_roots fun target => h.filter_rootFile?_eq_none (hmissing target)]
    rfl
  | some root =>
    obtain ⟨hroot, hfile⟩ := Option.filter_eq_some_iff.mp hentry
    obtain ⟨items, full, files, hread, hunfolds, hnodup, hlength⟩ :=
      htree.exists_unfolds store.bounded_reader hroot hfile
    obtain ⟨hfileOther, inlined, hreadOther, hunfoldsOther⟩ :=
      h.unfolds_root hroot hfile hread hunfolds
    have hfilter : (root :: files).filter (!chosen ·) = root :: files.filter (!chosen ·) :=
      List.filter_cons_of_pos (by simp [h.root hroot])
    have hsublist : (root :: files.filter (!chosen ·)).Sublist (root :: files) :=
      hfilter ▸ List.filter_sublist
    -- Both packages unfold to the same items, so they declare the same.
    rw [scanStore, scanStore,
      scan_of_unfolds htree.noLibrary hroot hfile hread hunfolds hnodup hlength.le,
      scan_of_unfolds hlibrary hroot hfileOther hreadOther hunfoldsOther
        (hnodup.sublist (hsublist.map _)) (hsublist.length_le.trans hlength.le)]
    cases layout.declared full with
    | error failure => rfl
    | ok program => exact congrArg (fun kept => Except.ok (program, kept)) hfilter.symm

end PackageLayout

/-! ## An example -/

namespace InliningExample

/-- A package with a module in a file, and a module in a file below it. -/
def nested : FileStore :=
  ((FileStore.empty.insert ["src", "main.rs"] (.file "mod api; fn main() \x7b\x7d".toUTF8)).insert
    ["src", "api.rs"] (.file "mod inner; struct A; impl A \x7b\x7d".toUTF8)).insert
    ["src", "api", "inner.rs"] (.file "struct B; impl B \x7b\x7d".toUTF8)

/-- The root file with the first module in place. -/
def inlinedText : String :=
  "mod api \x7b mod inner; struct A; impl A \x7b\x7d \x7d fn main() \x7b\x7d"

/-- The package with that root file. -/
def inlined : FileStore := nested.set ["src", "main.rs"] (.file inlinedText.toUTF8)

def layout : PackageLayout := .conventional ⟨"."⟩ none

def root : ModuleFile := .ofRoot ⟨"./src/main.rs"⟩

def api : ModuleFile := root.enter (.file "api" none ⟨"./src/api.rs"⟩)

def inner : ModuleFile := api.enter (.file "inner" none ⟨"./src/api/inner.rs"⟩)

def rootItems : List SourceItem := [.fileModule "api" none, .function "main"]

def apiItems : List SourceItem :=
  [.fileModule "inner" none, .declaration "A", .block ⟨some ["A"], [], []⟩]

def innerItems : List SourceItem := [.declaration "B", .block ⟨some ["B"], [], []⟩]

def rootItemsInlined : List SourceItem := [.inlineModule "api" none apiItems, .function "main"]

mutual

/-- Whether two items are the same. Only items without trees are compared. -/
def sameItem : SourceItem → SourceItem → Bool
  | .block ⟨names, [], []⟩, .block ⟨names', [], []⟩ => names = names'
  | .inlineModule name path items, .inlineModule name' path' items' =>
    name = name' && path = path' && sameItems items items'
  | .fileModule name path, .fileModule name' path' => name = name' && path = path'
  | .function name, .function name' => name = name'
  | .declaration name, .declaration name' => name = name'
  | _, _ => false

/-- The same for items that follow each other. -/
def sameItems : List SourceItem → List SourceItem → Bool
  | [], [] => true
  | item :: rest, item' :: rest' => sameItem item item' && sameItems rest rest'
  | _, _ => false

end

mutual

theorem eq_of_sameItem {item item' : SourceItem} (h : sameItem item item' = true) :
    item = item' := by
  unfold sameItem at h
  split at h
  case h_2 name path items name' path' items' =>
    simp only [Bool.and_eq_true, decide_eq_true_eq] at h
    obtain ⟨⟨rfl, rfl⟩, hitems⟩ := h
    rw [eq_of_sameItems hitems]
  case h_6 => cases h
  all_goals simp_all

theorem eq_of_sameItems {items items' : List SourceItem} (h : sameItems items items' = true) :
    items = items' := by
  unfold sameItems at h
  split at h
  case h_1 => rfl
  case h_2 item rest item' rest' =>
    obtain ⟨hitem, hrest⟩ := Bool.and_eq_true_iff.mp h
    rw [eq_of_sameItem hitem, eq_of_sameItems hrest]
  case h_3 => cases h

end

theorem eq_ok_of_sameItems {computed : Except Failure (List SourceItem)} {items : List SourceItem}
    (h : computed.toOption.any (sameItems · items) = true) : computed = .ok items := by
  cases computed with
  | error failure => cases h
  | ok found => rw [eq_of_sameItems h]

/-- The items of all files, before and after. -/
theorem readItems_eq :
    nested.readItems root.file = .ok rootItems ∧ nested.readItems api.file = .ok apiItems ∧
      nested.readItems inner.file = .ok innerItems ∧
      inlined.readItems root.file = .ok rootItemsInlined ∧
      inlined.readItems inner.file = .ok innerItems := by
  refine ⟨?_, ?_, ?_, ?_, ?_⟩
  all_goals exact eq_ok_of_sameItems (by decide +kernel)

/-- The modules are found in their files, and the package has no library. -/
theorem locate?_eq :
    root.locate? nested.isFile "api" none = some api.file ∧
      api.locate? nested.isFile "inner" none = some inner.file ∧
      (layout.rootFile? .library).filter nested.isFile = none := by
  decide +kernel

/-- The root file is the only one that a target starts with. -/
theorem ofRoot_eq {target : Target} {file : FilePath} (h : layout.rootFile? target = some file)
    (hfile : nested.isFile file = true) : ModuleFile.ofRoot file = root := by
  cases target with
  | library => exact absurd hfile (Option.filter_eq_none_iff.mp locate?_eq.2.2 file h)
  | entry =>
    cases h
    rfl

/-- The items of the three modules. -/
def Holds (module : ModuleFile) (items : List SourceItem) : Prop :=
  module = root ∧ items = rootItems ∨ module = api ∧ items = apiItems ∨
    module = inner ∧ items = innerItems

theorem holds_of_read {module : ModuleFile} {items : List SourceItem}
    (h : module = root ∨ module = api ∨ module = inner)
    (hread : nested.readItems module.file = .ok items) : Holds module items := by
  obtain ⟨hroot, hapi, hinner, -⟩ := readItems_eq
  rcases h with rfl | rfl | rfl
  · exact .inl ⟨rfl, Except.ok.inj (hread.symm.trans hroot)⟩
  · exact .inr (.inl ⟨rfl, Except.ok.inj (hread.symm.trans hapi)⟩)
  · exact .inr (.inr ⟨rfl, Except.ok.inj (hread.symm.trans hinner)⟩)

/-- From the three modules one comes to no other file. -/
theorem enter_eq {module : ModuleFile} {items : List SourceItem} {name : String}
    {path : Option String} {file : FilePath} (h : Holds module items)
    (hmem : .fileModule name path ∈ items)
    (hlocate : module.locate? nested.isFile name path = some file) :
    module.enter (.file name path file) = api ∨ module.enter (.file name path file) = inner := by
  obtain ⟨hlocateApi, hlocateInner, -⟩ := locate?_eq
  -- The root names one file, which names the other; that one names none.
  rcases h with ⟨rfl, rfl⟩ | ⟨rfl, rfl⟩ | ⟨-, rfl⟩
  · obtain ⟨rfl, rfl⟩ : name = "api" ∧ path = none := by simpa [rootItems] using hmem
    cases hlocate.symm.trans hlocateApi
    exact .inl rfl
  · obtain ⟨rfl, rfl⟩ : name = "inner" ∧ path = none := by simpa [apiItems] using hmem
    cases hlocate.symm.trans hlocateInner
    exact .inr rfl
  · simp [innerItems] at hmem

/-- A walk reaches the three modules only. -/
theorem holds_of_walks {place : ModulePlace} {items : List SourceItem}
    (h : layout.Walks nested.reader place items) : Holds place.module items := by
  induction h with
  | root hroot hfile hread => exact holds_of_read (.inl (ofRoot_eq hroot hfile)) hread
  -- None of the three files has a module in place.
  | inline _ hmem ih =>
    rcases ih with ⟨-, rfl⟩ | ⟨-, rfl⟩ | ⟨-, rfl⟩ <;>
      simp [rootItems, apiItems, innerItems] at hmem
  | @file _ _ _ _ path _ _ hmem hlocate hread ih =>
    apply holds_of_read (.inr (enter_eq ih hmem hlocate))
    cases path <;> exact hread

theorem module_of_finds {place : ModulePlace} (h : layout.Finds nested.reader place) :
    place.module = root ∨ place.module = api ∨ place.module = inner := by
  cases h with
  | root hroot hfile => exact .inl (ofRoot_eq hroot hfile)
  | file hwalks hmem hlocate => exact .inr (enter_eq (holds_of_walks hwalks) hmem hlocate)

/-- The two files below the root file are named once. -/
theorem namedFiles_sublist (depth : Nat) :
    (nested.reader.namedFiles depth root).Sublist [api.file, inner.file] := by
  obtain ⟨hroot, hapi, hinner, -⟩ := readItems_eq
  obtain ⟨hlocateApi, hlocateInner, -⟩ := locate?_eq
  -- The files are unfolded from the inside, as each one contains the next.
  have hunfoldsInner : Unfolds nested.reader inner innerItems innerItems [] :=
    .other rfl (.other rfl .nil)
  have hunfoldsApi : Unfolds nested.reader api apiItems _ [inner.file] :=
    .file hlocateInner hinner hunfoldsInner (.other rfl (.other rfl .nil))
  have hunfolds : Unfolds nested.reader root rootItems _ [api.file, inner.file] :=
    .file hlocateApi hapi hunfoldsApi (.other rfl .nil)
  cases depth with
  | zero => exact List.nil_sublist _
  | succ depth =>
    have hread : nested.reader.read root.file = .ok rootItems := hroot
    rw [SourceReader.namedFiles, hread]
    exact hunfolds.namedByItems_sublist depth

theorem hasModuleTree : layout.HasModuleTree nested.reader := by
  obtain ⟨hroot, hapi, hinner, -⟩ := readItems_eq
  obtain ⟨hlocateApi, hlocateInner, hlibrary⟩ := locate?_eq
  refine ⟨hlibrary, ?_, ?_, ?_⟩
  · -- The three files and their items are all there is.
    intro place items hwalks item hmem
    rcases holds_of_walks hwalks with ⟨-, rfl⟩ | ⟨-, rfl⟩ | ⟨-, rfl⟩ <;>
      simp only [rootItems, apiItems, innerItems, List.mem_cons, List.not_mem_nil, or_false] at hmem
    · rcases hmem with rfl | rfl <;> rfl
    · rcases hmem with rfl | rfl | rfl <;> rfl
    · rcases hmem with rfl | rfl <;> rfl
  · intro place hfinds
    rcases module_of_finds hfinds with h | h | h <;> rw [h]
    · exact ⟨_, hroot⟩
    · exact ⟨_, hapi⟩
    · exact ⟨_, hinner⟩
  · intro file hfile depth
    cases hfile
    exact List.Nodup.sublist (((namedFiles_sublist depth).cons_cons root.file).map _)
      (by decide +kernel)

/-- The file that is put in place. -/
def chosen (file : FilePath) : Bool := file = api.file

/-- The inlined package has kept its kinds of entries. -/
theorem isFile_inlined (path : FilePath) : inlined.isFile path = nested.isFile path := by
  have hlookup : nested.lookup ["src", "main.rs"] =
      some (.file "mod api; fn main() \x7b\x7d".toUTF8) := rfl
  exact (FileStore.sameKinds_set_file hlookup inlinedText.toUTF8).isFile path

theorem inlinesFiles : layout.InlinesFiles nested.reader inlined.reader chosen := by
  obtain ⟨-, hapi, -, hrootInlined, hinnerInlined⟩ := readItems_eq
  obtain ⟨hlocateApi, hlocateInner, -⟩ := locate?_eq
  have hchosen : chosen api.file = true := by decide +kernel
  have hkept : chosen root.file = false ∧ chosen inner.file = false := by decide +kernel
  refine ⟨fun h => (isFile_inlined _).symm.trans h, fun h _ => (isFile_inlined _).trans h, ?_, ?_⟩
  · intro file hfile
    cases hfile
    exact hkept.1
  · intro place items hfinds hplace hread
    rcases holds_of_read (module_of_finds hfinds) hread with ⟨h, rfl⟩ | ⟨h, rfl⟩ | ⟨h, rfl⟩ <;>
      rw [h] at hplace ⊢
    · -- The chosen file keeps its own module, since that one is not chosen.
      have hinner : Inlines nested.reader chosen api apiItems apiItems := by
        refine .keep (fun file hlocate => ?_) (.other rfl (.other rfl .nil))
        cases hlocate.symm.trans hlocateInner
        exact hkept.2
      exact ⟨_, hrootInlined, .replace hlocateApi hchosen hapi hinner (.other rfl .nil)⟩
    · rw [hchosen] at hplace
      cases hplace
    · exact ⟨_, hinnerInlined, .other rfl (.other rfl .nil)⟩

end InliningExample

open InliningExample in
/-- The module `api` is put in place: its child module is still found in `src/api/inner.rs`. -/
theorem PackageLayout.scanStore_of_inlined_api :
    layout.HasModuleTree nested.reader ∧
      layout.InlinesFiles nested.reader inlined.reader chosen ∧
      ∃ before after, layout.scanStore nested = .ok before ∧ layout.scanStore inlined = .ok after ∧
        after.program = before.program ∧ before.program.types.map (·.name) = ["B", "A"] ∧
        before.files = [⟨"./src/main.rs"⟩, ⟨"./src/api.rs"⟩, ⟨"./src/api/inner.rs"⟩] ∧
        after.files = [⟨"./src/main.rs"⟩, ⟨"./src/api/inner.rs"⟩] := by
  -- Only the scan of the nested store is evaluated; the other one follows by the theorem.
  have hscan : (layout.scanStore nested).toOption.map
      (fun result => (result.program.types.map (·.name), result.files)) =
      some (["B", "A"], [⟨"./src/main.rs"⟩, ⟨"./src/api.rs"⟩, ⟨"./src/api/inner.rs"⟩]) := by
    decide +kernel
  obtain ⟨before, hbefore, hview⟩ := exists_ok_of_map_toOption hscan
  obtain ⟨htypes, hfiles⟩ := Prod.mk.inj hview
  have hsame := scanStore_of_inlinesFiles hasModuleTree inlinesFiles
  rw [hbefore] at hsame
  cases hafter : layout.scanStore inlined with
  | error failure =>
    rw [hafter] at hsame
    cases hsame
  | ok after =>
    rw [hafter] at hsame
    obtain ⟨hprogram, hkept⟩ := Prod.mk.inj (Except.ok.inj hsame)
    rw [hfiles] at hkept
    refine ⟨hasModuleTree, inlinesFiles, before, after, hbefore, rfl, hprogram, htypes, hfiles, ?_⟩
    exact hkept

end RouteRegistrar
