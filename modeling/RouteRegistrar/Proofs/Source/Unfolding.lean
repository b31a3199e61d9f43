import RouteRegistrar.Proofs.Source.Completeness

/-!
# Module files in place

A module with a file of its own can be written as a module that stands in place and holds the items
of that file. `Unfolds` does this to all modules of a package, and lists the files in the order in
which a scan reads them.

If each file is named once, and the root file never, then a scan declares what the unfolded items
declare (`scan_of_unfolds`): reading a file has no effect but to list it. And the modules of such a
package can always be unfolded (`HasModuleTree.exists_unfolds`), since a walk that went on forever
would name more files than there are.
-/

namespace RouteRegistrar

/-- A reader without files. -/
def SourceReader.empty : SourceReader := ⟨fun _ => false, fun _ => .ok []⟩

namespace SourceItem

/-- Whether an item is a module. -/
def isModule : SourceItem → Bool
  | .inlineModule .. => true
  | .fileModule .. => true
  | _ => false

/-- The path that an attribute gives to a module. -/
def path? : SourceItem → Option String
  | .inlineModule _ path _ => path
  | .fileModule _ path => path
  | _ => none

end SourceItem

namespace ModuleFile

variable {parent : ModuleFile} {isFile : FilePath → Bool} {name : String} {path : Option String}
  {file : FilePath}

/-- The file that is found for a child module is the file of the module that a step leads to. -/
theorem find?_of_locate? (h : parent.locate? isFile name path = some file) :
    (parent.candidates name path).find? (isFile ·.file) =
      some (parent.enter (.file name path file)) := by
  obtain ⟨child, hfind, rfl⟩ := Option.map_eq_some_iff.mp h
  rw [hfind, ← eq_enter_of_mem_candidates (List.mem_of_find?_eq_some hfind)]

theorem isFile_of_locate? (h : parent.locate? isFile name path = some file) :
    isFile file = true := by
  obtain ⟨child, hfind, rfl⟩ := Option.map_eq_some_iff.mp h
  simpa using List.find?_some hfind

theorem find?_of_locate?_eq_none (h : parent.locate? isFile name path = none) :
    (parent.candidates name path).find? (isFile ·.file) = none :=
  Option.map_eq_none_iff.mp h

end ModuleFile

/-! ## Unfolded items -/

/-- The items of a module with all module files in place: what they become, and the files, each in
front of those that its own items name. -/
inductive Unfolds (reader : SourceReader) :
    ModuleFile → List SourceItem → List SourceItem → List FilePath → Prop where
  | nil {module : ModuleFile} : Unfolds reader module [] [] []
  | other {module : ModuleFile} {item : SourceItem} {rest more : List SourceItem}
      {files : List FilePath} :
      item.isModule = false → Unfolds reader module rest more files →
      Unfolds reader module (item :: rest) (item :: more) files
  | inline {module : ModuleFile} {name : String} {inner full rest more : List SourceItem}
      {below files : List FilePath} :
      Unfolds reader (module.enter (.inline name none)) inner full below →
      Unfolds reader module rest more files →
      Unfolds reader module (.inlineModule name none inner :: rest)
        (.inlineModule name none full :: more) (below ++ files)
  /-- A module without a file stays as it is. -/
  | missing {module : ModuleFile} {name : String} {rest more : List SourceItem}
      {files : List FilePath} :
      module.locate? reader.isFile name none = none → Unfolds reader module rest more files →
      Unfolds reader module (.fileModule name none :: rest) (.fileModule name none :: more) files
  | file {module : ModuleFile} {name : String} {file : FilePath}
      {inner full rest more : List SourceItem} {below files : List FilePath} :
      module.locate? reader.isFile name none = some file → reader.read file = .ok inner →
      Unfolds reader (module.enter (.file name none file)) inner full below →
      Unfolds reader module rest more files →
      Unfolds reader module (.fileModule name none :: rest)
        (.inlineModule name none full :: more) (file :: (below ++ files))

namespace Unfolds

variable {reader : SourceReader} {module : ModuleFile} {items full : List SourceItem}
  {files : List FilePath}

/-- Items are unfolded one after the other. -/
theorem append {rest more : List SourceItem} {behind : List FilePath}
    (h : Unfolds reader module items full files) (hrest : Unfolds reader module rest more behind) :
    Unfolds reader module (items ++ rest) (full ++ more) (files ++ behind) := by
  induction h with
  | nil => exact hrest
  | other hitem _ ih => exact .other hitem (ih hrest)
  | inline hinner _ _ ih =>
    rw [List.append_assoc]
    exact .inline hinner (ih hrest)
  | missing hlocate _ ih => exact .missing hlocate (ih hrest)
  | file hlocate hread hinner _ _ ih =>
    rw [List.cons_append, List.cons_append, List.cons_append, List.append_assoc]
    exact .file hlocate hread hinner (ih hrest)

/-- The files that are put in place exist. -/
theorem isFile_of_mem (h : Unfolds reader module items full files) :
    ∀ file ∈ files, reader.isFile file = true := by
  -- Files come in only where a module has been located.
  induction h with
  | nil => exact nofun
  | other _ _ ih => exact ih
  | inline _ _ ihinner ih =>
    intro file hmem
    exact (List.mem_append.mp hmem).elim (ihinner file) (ih file)
  | missing _ _ ih => exact ih
  | file hlocate _ _ _ ihinner ih =>
    intro file hmem
    rcases List.mem_cons.mp hmem with rfl | hmem
    · exact ModuleFile.isFile_of_locate? hlocate
    · exact (List.mem_append.mp hmem).elim (ihinner file) (ih file)

/-- Unfolding changes no declared name. -/
theorem filterMap_declaredName? (h : Unfolds reader module items full files) :
    full.filterMap ModuleScope.declaredName? = items.filterMap ModuleScope.declaredName? := by
  induction h with
  | nil => rfl
  | other _ _ ih => simp only [List.filterMap_cons, ih]
  | inline _ _ _ ih | missing _ _ ih | file _ _ _ _ _ ih =>
    simp only [List.filterMap_cons, ModuleScope.declaredName?, ih]

/-- Unfolding changes no import. -/
theorem foldl_addItem (h : Unfolds reader module items full files) :
    ∀ scope : ModuleScope,
      full.foldl ModuleScope.addItem scope = items.foldl ModuleScope.addItem scope := by
  induction h with
  | nil => exact fun _ => rfl
  | other _ _ ih | inline _ _ _ ih | missing _ _ ih | file _ _ _ _ _ ih => exact fun _ => ih _

/-- Unfolding does not change the scope of a module. -/
theorem ofItems_eq (h : Unfolds reader module items full files) (path : ItemPath) :
    ModuleScope.ofItems path full = ModuleScope.ofItems path items := by
  rw [ModuleScope.ofItems, ModuleScope.ofItems, h.filterMap_declaredName?, h.foldl_addItem]

/-- Unfolding changes no item that is not a module. -/
theorem any_eq (h : Unfolds reader module items full files) {holds : SourceItem → Bool}
    (hmodule : ∀ item, item.isModule = true → holds item = false) :
    full.any holds = items.any holds := by
  induction h with
  | nil => rfl
  | other _ _ ih => rw [List.any_cons, List.any_cons, ih]
  | missing _ _ ih => rw [List.any_cons, List.any_cons, ih]
  | inline _ _ _ ih | file _ _ _ _ _ ih =>
    rw [List.any_cons, List.any_cons, ih, hmodule (.inlineModule ..) rfl, hmodule _ rfl]

/-- Unfolding does not change the entry point. -/
theorem withEntryPoint_eq (h : Unfolds reader module items full files) (scan : Scan)
    (setting : Scan.Setting) (path : ItemPath) :
    scan.withEntryPoint setting path full = scan.withEntryPoint setting path items := by
  unfold Scan.withEntryPoint
  simp only
  rw [h.any_eq]
  rintro (_ | _ | _ | _ | _ | _ | _) hmodule <;> first | rfl | cases hmodule

end Unfolds

/-! ## Declarations -/

mutual

/-- What an item declares if no file is read. -/
def Program.declareItem (program : Program) (libraryName : Option String) (scope : ModuleScope) :
    SourceItem → Except Failure Program
  | .block content =>
    let setting : Scan.Setting := ⟨.empty, libraryName, .entry⟩
    (Scan.declareBlock ⟨program, [], []⟩ setting scope content).map (·.program)
  | .inlineModule name _ items =>
    program.declareItems libraryName (.ofItems (scope.path.append [name]) items) items
  | _ => .ok program

/-- What items declare if no file is read. -/
def Program.declareItems (program : Program) (libraryName : Option String) (scope : ModuleScope) :
    List SourceItem → Except Failure Program
  | [] => .ok program
  | item :: rest => do
    let next ← program.declareItem libraryName scope item
    next.declareItems libraryName scope rest

end

namespace Scan

/-- A scan that has gone on to a program and read some files. -/
def after (scan : Scan) (files : List FilePath) (program : Program) : Scan :=
  ⟨program, scan.files ++ files, (files.map (·.components)).reverse ++ scan.loaded⟩

theorem after_nil (scan : Scan) : scan.after [] scan.program = scan := by
  simp [after]

theorem after_after (scan : Scan) (files behind : List FilePath) (program last : Program) :
    (scan.after files program).after behind last = scan.after (files ++ behind) last := by
  simp [after]

theorem after_record (scan : Scan) (file : FilePath) (files : List FilePath) (program : Program) :
    (scan.record file).after files program = scan.after (file :: files) program := by
  simp [after, record]

/-- Declaring a block depends on the program only, and changes nothing else. -/
theorem declareBlock_eq (scan : Scan) (setting : Setting) (scope : ModuleScope)
    (block : SourceBlock) :
    scan.declareBlock setting scope block =
      (scan.program.declareItem setting.libraryName scope (.block block)).map (scan.after []) := by
  rw [Program.declareItem, declareBlock, declareBlock]
  cases block.typeNames.bind fun names => names.getLast?.map (names, ·) with
  | none => exact congrArg Except.ok scan.after_nil.symm
  | some found =>
    obtain ⟨names, name⟩ := found
    simp only
    -- Both sides fail alike, where a method does.
    cases block.methods.mapM (method ⟨scope, scope.selfPath names name, setting.libraryName⟩) with
    | error failure => rfl
    | ok methods => simp [declare, after, Except.map, bind, Except.bind, pure, Except.pure]

/-! ## Scans of unfolded items -/

/-- The files are read for the first time, each of them once. -/
structure IsFresh (scan : Scan) (files : List FilePath) : Prop where
  nodup : (files.map (·.components)).Nodup
  isNew : ∀ file ∈ files, file.components ∉ scan.loaded

namespace IsFresh

variable {scan : Scan} {file : FilePath} {files behind : List FilePath}

theorem left (files : List FilePath) (h : scan.IsFresh (files ++ behind)) : scan.IsFresh files := by
  have hnodup := h.nodup
  rw [List.map_append, List.nodup_append] at hnodup
  exact ⟨hnodup.1, fun file hmem => h.isNew file (List.mem_append_left _ hmem)⟩

/-- Once some files have been read, the others are still fresh. -/
theorem right (files : List FilePath) (h : scan.IsFresh (files ++ behind)) (program : Program) :
    (scan.after files program).IsFresh behind := by
  have hnodup := h.nodup
  rw [List.map_append, List.nodup_append] at hnodup
  obtain ⟨-, hbehind, hdisjoint⟩ := hnodup
  refine ⟨hbehind, fun file hmem hloaded => ?_⟩
  -- A file behind is none of those that have just been read, and none that was read before.
  rcases List.mem_append.mp hloaded with hread | hold
  · rw [List.mem_reverse] at hread
    exact hdisjoint _ hread _ (List.mem_map_of_mem hmem) rfl
  · exact h.isNew file (List.mem_append_right _ hmem) hold

theorem head (h : scan.IsFresh (file :: files)) : file.components ∉ scan.loaded :=
  h.isNew file List.mem_cons_self

theorem tail (h : scan.IsFresh (file :: files)) : (scan.record file).IsFresh files := by
  have hrest : (scan.after [file] scan.program).IsFresh files :=
    right [file] h scan.program
  exact ⟨hrest.nodup, hrest.isNew⟩

end IsFresh

variable {setting : Setting}

/-- A file that has not been read is read, and its items are scanned. -/
theorem scanFile_of_new {scan : Scan} {module : ModuleFile} {path : ItemPath}
    {items : List SourceItem} {fuel : Nat} (hnew : module.file.components ∉ scan.loaded)
    (hread : setting.reader.read module.file = .ok items) :
    scanFile setting (fuel + 1) scan module path =
      scanItems setting (scanFile setting fuel) (.ofItems path items) module
        ((scan.record module.file).withEntryPoint setting path items) items := by
  rw [scanFile, if_neg (by simpa using hnew), hread]
  rfl

theorem record_withEntryPoint (scan : Scan) (file : FilePath) (path : ItemPath)
    (items : List SourceItem) : (scan.record file).withEntryPoint setting path items =
      (scan.withEntryPoint setting path items).record file := by
  simp only [withEntryPoint]
  split <;> rfl

theorem loaded_withEntryPoint (scan : Scan) (path : ItemPath) (items : List SourceItem) :
    (scan.withEntryPoint setting path items).loaded = scan.loaded := by
  obtain ⟨entryPoint, heq⟩ := withEntryPoint_eq scan setting path items
  rw [heq]

theorem after_withEntryPoint (scan : Scan) (path : ItemPath) (items : List SourceItem)
    (files : List FilePath) (program : Program) :
    (scan.withEntryPoint setting path items).after files program = scan.after files program := by
  rw [after, files_withEntryPoint, loaded_withEntryPoint]
  rfl

/-- What holds of the scans of an item and of the items behind it holds of all of them. -/
theorem scanItems_eq_of_cons {scanFile : FileScan} {scope : ModuleScope} {module : ModuleFile}
    {scan : Scan} {item found : SourceItem} {rest more : List SourceItem} (files : List FilePath)
    {behind : List FilePath}
    (hitem : scanItem setting scanFile scope module scan item =
      (scan.program.declareItem setting.libraryName scope found).map (scan.after files))
    (hrest : ∀ program, scanItems setting scanFile scope module (scan.after files program) rest =
      (program.declareItems setting.libraryName scope more).map
        ((scan.after files program).after behind)) :
    scanItems setting scanFile scope module scan (item :: rest) =
      (scan.program.declareItems setting.libraryName scope (found :: more)).map
        (scan.after (files ++ behind)) := by
  rw [scanItems, Program.declareItems, hitem]
  cases scan.program.declareItem setting.libraryName scope found with
  | error failure => rfl
  | ok program =>
    -- Files that are read one after the other are read together.
    have hafter : (scan.after files program).after behind = scan.after (files ++ behind) :=
      funext fun last => after_after scan files behind program last
    rw [← hafter]
    exact hrest program

/-- **Files that are named once may as well stand in place**: a scan of items declares what the
unfolded items declare, and it reads all the files that are put in place. -/
theorem scanItems_of_unfolds {module : ModuleFile} {items full : List SourceItem}
    {files : List FilePath} (h : Unfolds setting.reader module items full files) :
    ∀ {fuel : Nat} {scope : ModuleScope} {scan : Scan}, files.length ≤ fuel →
      scan.IsFresh files →
      scanItems setting (scanFile setting fuel) scope module scan items =
        (scan.program.declareItems setting.libraryName scope full).map (scan.after files) := by
  -- Each file takes one unit of fuel, and those behind it stay fresh while it is read.
  induction h with
  | nil =>
    intro fuel scope scan _ _
    exact congrArg Except.ok scan.after_nil.symm
  | @other module item rest more files hitem _ ih =>
    intro fuel scope scan hfuel hfresh
    refine scanItems_eq_of_cons [] ?_ fun program => ih hfuel (.right [] hfresh program)
    cases item with
    | block content => exact declareBlock_eq scan setting scope content
    | inlineModule _ _ _ | fileModule _ _ => cases hitem
    | use _ _ | function _ | declaration _ | other => exact congrArg Except.ok scan.after_nil.symm
  | @inline module name inner full rest more below files hinner _ ihinner ih =>
    intro fuel scope scan hfuel hfresh
    rw [List.length_append] at hfuel
    refine scanItems_eq_of_cons below ?_ fun program => ih (by omega) (.right below hfresh program)
    rw [scanItem, Program.declareItem, hinner.ofItems_eq]
    exact ihinner (by omega) (.left below hfresh)
  | @missing module name rest more files hlocate _ ih =>
    intro fuel scope scan hfuel hfresh
    refine scanItems_eq_of_cons [] ?_ fun program => ih hfuel (.right [] hfresh program)
    simp only [scanItem, ModuleFile.find?_of_locate?_eq_none hlocate]
    exact congrArg Except.ok scan.after_nil.symm
  | @file module name file inner full rest more below files hlocate hread hinner _ ihinner ih =>
    intro fuel scope scan hfuel hfresh
    rw [List.length_cons, List.length_append] at hfuel
    obtain ⟨fuel, rfl⟩ : ∃ less, fuel = less + 1 := ⟨fuel - 1, by omega⟩
    have hfirst : scan.IsFresh (file :: below) := .left (file :: below) hfresh
    refine scanItems_eq_of_cons (file :: below) ?_
      fun program => ih (by omega) (.right (file :: below) hfresh program)
    rw [scanItem, ModuleFile.find?_of_locate? hlocate, Program.declareItem, hinner.ofItems_eq]
    simp only
    -- The file is read, and then it is scanned like a module that stands in place.
    rw [scanFile_of_new hfirst.head hread,
      withEntryPoint_of_not_entryRoot (.inr (by simp [ItemPath.append]))]
    have hbelow : (scan.record file).after below = scan.after (file :: below) :=
      funext fun program => after_record scan file below program
    rw [← hbelow]
    exact ihinner (by omega) hfirst.tail

end Scan

/-! ## Named files -/

namespace SourceReader

section NamedFiles

variable (reader : SourceReader) (below : ModuleFile → List FilePath)

mutual

/-- The files that an item of a module names. Each file stands in front of those that its own items
name, which are given by `below`. -/
def namedByItem (module : ModuleFile) : SourceItem → List FilePath
  | .inlineModule name path items => namedByItems (module.enter (.inline name path)) items
  | .fileModule name path =>
    match module.locate? reader.isFile name path with
    | some file => file :: below (module.enter (.file name path file))
    | none => []
  | _ => []

/-- The files that the items of a module name. -/
def namedByItems (module : ModuleFile) : List SourceItem → List FilePath
  | [] => []
  | item :: rest => namedByItem module item ++ namedByItems module rest

end

end NamedFiles

/-- The files that the items of a file name, as far as files nest at most as deep as given. A file
that is named twice is listed twice. -/
def namedFiles (reader : SourceReader) : Nat → ModuleFile → List FilePath
  | 0, _ => []
  | depth + 1, module =>
    match reader.read module.file with
    | .ok items => reader.namedByItems (reader.namedFiles depth) module items
    | .error _ => []

variable {reader : SourceReader}

mutual

/-- A file that is named by an item exists. -/
theorem isFile_of_mem_namedByItem {below : ModuleFile → List FilePath}
    (hbelow : ∀ module, ∀ file ∈ below module, reader.isFile file = true) (module : ModuleFile)
    (item : SourceItem) : ∀ file ∈ reader.namedByItem below module item,
      reader.isFile file = true :=
  match item with
  | .inlineModule _ _ items => isFile_of_mem_namedByItems hbelow _ items
  | .fileModule name path => by
    intro file hmem
    rw [namedByItem] at hmem
    -- A module without a file names none.
    split at hmem
    case h_1 found hlocate =>
      rcases List.mem_cons.mp hmem with rfl | hmem
      · exact ModuleFile.isFile_of_locate? hlocate
      · exact hbelow _ file hmem
    case h_2 => cases hmem
  | .block _ | .use _ _ | .function _ | .declaration _ | .other => nofun

/-- A file that is named by items exists. -/
theorem isFile_of_mem_namedByItems {below : ModuleFile → List FilePath}
    (hbelow : ∀ module, ∀ file ∈ below module, reader.isFile file = true) (module : ModuleFile)
    (items : List SourceItem) : ∀ file ∈ reader.namedByItems below module items,
      reader.isFile file = true :=
  match items with
  | [] => nofun
  | item :: rest => by
    intro file hmem
    rcases List.mem_append.mp hmem with hitem | hrest
    · exact isFile_of_mem_namedByItem hbelow module item file hitem
    · exact isFile_of_mem_namedByItems hbelow module rest file hrest

end

/-- A file that is named exists. -/
theorem isFile_of_mem_namedFiles :
    ∀ depth module, ∀ file ∈ reader.namedFiles depth module, reader.isFile file = true
  | 0, _ => nofun
  | depth + 1, module => by
    rw [namedFiles]
    split
    case h_1 items _ =>
      exact isFile_of_mem_namedByItems (isFile_of_mem_namedFiles depth) module items
    case h_2 => nofun

end SourceReader

/-- The files that are put in place are those that are named. -/
theorem Unfolds.namedByItems_eq {reader : SourceReader} {module : ModuleFile}
    {items full : List SourceItem} {files : List FilePath}
    (h : Unfolds reader module items full files) :
    ∀ {depth : Nat}, files.length ≤ depth →
      reader.namedByItems (reader.namedFiles depth) module items = files := by
  induction h with
  | nil => exact fun _ => rfl
  | @other module item rest more files hitem _ ih =>
    intro depth hdepth
    rw [SourceReader.namedByItems, ih hdepth]
    cases item with
    | inlineModule _ _ _ | fileModule _ _ => cases hitem
    | block _ | use _ _ | function _ | declaration _ | other => rfl
  | inline _ _ ihinner ih =>
    intro depth hdepth
    rw [List.length_append] at hdepth
    rw [SourceReader.namedByItems, SourceReader.namedByItem, ihinner (by omega), ih (by omega)]
  | missing hlocate _ ih =>
    intro depth hdepth
    rw [SourceReader.namedByItems, SourceReader.namedByItem, hlocate, ih hdepth]
    rfl
  | @file _ _ file _ _ _ _ _ _ hlocate hread _ _ ihinner ih =>
    intro depth hdepth
    rw [List.length_cons, List.length_append] at hdepth
    -- The file itself takes one level, so its own items are left with one less.
    obtain ⟨depth, rfl⟩ : ∃ less, depth = less + 1 := ⟨depth - 1, by omega⟩
    have hbelow := @ihinner depth (by omega)
    rw [SourceReader.namedByItems, SourceReader.namedByItem, hlocate, ih (by omega)]
    simp only [SourceReader.namedFiles, ModuleFile.enter, hread]
    rw [List.cons_append]
    exact congrArg (file :: · ++ _) hbelow

/-- However deep files may nest, no other files are named. -/
theorem Unfolds.namedByItems_sublist {reader : SourceReader} {module : ModuleFile}
    {items full : List SourceItem} {files : List FilePath}
    (h : Unfolds reader module items full files) :
    ∀ depth : Nat, (reader.namedByItems (reader.namedFiles depth) module items).Sublist files := by
  induction h with
  | nil => exact fun _ => .slnil
  | @other module item rest more files hitem _ ih =>
    intro depth
    cases item with
    | inlineModule _ _ _ | fileModule _ _ => cases hitem
    | block _ | use _ _ | function _ | declaration _ | other => exact ih depth
  | inline _ _ ihinner ih => exact fun depth => (ihinner depth).append (ih depth)
  | missing hlocate _ ih =>
    intro depth
    rw [SourceReader.namedByItems, SourceReader.namedByItem, hlocate]
    exact ih depth
  | @file _ _ file _ _ _ _ _ _ hlocate hread _ _ ihinner ih =>
    intro depth
    rw [SourceReader.namedByItems, SourceReader.namedByItem, hlocate]
    refine List.Sublist.cons_cons file (List.Sublist.append ?_ (ih depth))
    -- At depth nothing the file is named, but not what is in it.
    cases depth with
    | zero => exact List.nil_sublist _
    | succ depth =>
      simp only [SourceReader.namedFiles, ModuleFile.enter, hread]
      exact ihinner depth

/-! ## Packages -/

namespace PackageLayout

/-- A walk comes to a place whose module has a file of its own. -/
inductive Finds (layout : PackageLayout) (reader : SourceReader) : ModulePlace → Prop where
  | root {target : Target} {file : FilePath} :
      layout.rootFile? target = some file → reader.isFile file = true →
      Finds layout reader ⟨target, file, []⟩
  | file {place : ModulePlace} {items : List SourceItem} {name : String} {path : Option String}
      {file : FilePath} :
      layout.Walks reader place items → .fileModule name path ∈ items →
      place.module.locate? reader.isFile name path = some file →
      Finds layout reader (place.enter (.file name path file))

/-- If the file can be read, the walk goes on to its items. -/
theorem Finds.walks {layout : PackageLayout} {reader : SourceReader} {place : ModulePlace}
    (h : layout.Finds reader place) {items : List SourceItem}
    (hread : reader.read place.module.file = .ok items) : layout.Walks reader place items := by
  cases h with
  | root hroot hfile => exact .root hroot hfile hread
  | @file _ _ _ path _ hwalks hmem hlocate =>
    cases path <;> exact .file hwalks hmem hlocate hread

/-- The modules of a package form a tree: there is no library beside the entry target, no attribute
gives a path to a module, all files can be read, and each file is named by one module, the root file
by none. -/
structure HasModuleTree (layout : PackageLayout) (reader : SourceReader) : Prop where
  noLibrary : (layout.rootFile? .library).filter reader.isFile = none
  path? {place : ModulePlace} {items : List SourceItem} : layout.Walks reader place items →
    ∀ item ∈ items, item.path? = none
  reads {place : ModulePlace} : layout.Finds reader place →
    ∃ items, reader.read place.module.file = .ok items
  nodup {root : FilePath} : layout.rootFile? .entry = some root → ∀ depth,
    ((root :: reader.namedFiles depth (.ofRoot root)).map (·.components)).Nodup

variable {layout : PackageLayout} {reader : SourceReader}

namespace HasModuleTree

section Items

variable {below : ModuleFile → List FilePath} {depth : Nat} {place : ModulePlace}
  {items : List SourceItem}

mutual

/-- An item can be unfolded, unless files nest deeper below it. -/
theorem unfolds_item (htree : layout.HasModuleTree reader)
    (hbelow : ∀ {place inner}, layout.Finds reader place →
      reader.read place.module.file = .ok inner →
      (∃ full files, Unfolds reader place.module inner full files) ∨
        depth ≤ (below place.module).length)
    {place : ModulePlace} {items : List SourceItem} (hwalks : layout.Walks reader place items)
    (item : SourceItem) (hmem : item ∈ items) :
    (∃ full files, Unfolds reader place.module [item] full files) ∨
      depth + 1 ≤ (reader.namedByItem below place.module item).length :=
  match item with
  | .inlineModule name path inner => by
    obtain rfl : path = none := htree.path? hwalks _ hmem
    rcases unfolds_items htree hbelow (hwalks.inline hmem) inner (fun _ h => h) with
      ⟨full, files, hinner⟩ | hlong
    · exact .inl ⟨_, _, .inline hinner .nil⟩
    · exact .inr hlong
  | .fileModule name path => by
    obtain rfl : path = none := htree.path? hwalks _ hmem
    cases hlocate : place.module.locate? reader.isFile name none with
    | none => exact .inl ⟨_, _, .missing hlocate .nil⟩
    | some file =>
      have hfinds : layout.Finds reader (place.enter (.file name none file)) :=
        .file hwalks hmem hlocate
      obtain ⟨inner, hread⟩ := htree.reads hfinds
      rcases hbelow hfinds hread with ⟨full, files, hinner⟩ | hlong
      · exact .inl ⟨_, _, .file hlocate hread hinner .nil⟩
      · -- This file is named as well, in front of all that are named below it.
        right
        rw [SourceReader.namedByItem, hlocate]
        exact Nat.succ_le_succ hlong
  | .block _ | .use _ _ | .function _ | .declaration _ | .other => .inl ⟨_, _, .other rfl .nil⟩

/-- Items can be unfolded, unless files nest deeper below them. -/
theorem unfolds_items (htree : layout.HasModuleTree reader)
    (hbelow : ∀ {place inner}, layout.Finds reader place →
      reader.read place.module.file = .ok inner →
      (∃ full files, Unfolds reader place.module inner full files) ∨
        depth ≤ (below place.module).length)
    {place : ModulePlace} {items : List SourceItem} (hwalks : layout.Walks reader place items)
    (rest : List SourceItem) (hmem : ∀ item ∈ rest, item ∈ items) :
    (∃ full files, Unfolds reader place.module rest full files) ∨
      depth + 1 ≤ (reader.namedByItems below place.module rest).length :=
  match rest with
  | [] => .inl ⟨_, _, .nil⟩
  | item :: rest => by
    rw [SourceReader.namedByItems, List.length_append]
    -- Either all items unfold, or one of them names so many files that the bound is met.
    rcases unfolds_item htree hbelow hwalks item (hmem item List.mem_cons_self) with
      ⟨full, files, hitem⟩ | hlong
    · rcases unfolds_items htree hbelow hwalks rest
        (fun i hi => hmem i (List.mem_cons_of_mem _ hi)) with ⟨more, behind, hrest⟩ | hlong
      · exact .inl ⟨_, _, hitem.append hrest⟩
      · exact .inr (Nat.le_add_left_of_le hlong)
    · exact .inr (Nat.le_add_right_of_le hlong)

end

end Items

/-- A file can be unfolded, unless its modules name more files than the given depth. -/
theorem unfolds_file (htree : layout.HasModuleTree reader) :
    ∀ depth {place : ModulePlace} {items : List SourceItem}, layout.Finds reader place →
      reader.read place.module.file = .ok items →
      (∃ full files, Unfolds reader place.module items full files) ∨
        depth ≤ (reader.namedFiles depth place.module).length
  | 0, _, _, _, _ => .inr (Nat.zero_le _)
  | depth + 1, place, items, hfinds, hread => by
    simp only [SourceReader.namedFiles, hread]
    exact unfolds_items htree (unfolds_file htree depth) (hfinds.walks hread) items fun _ h => h

/-- **A module tree can be unfolded**: a walk that goes on forever would name more files than there
are. -/
theorem exists_unfolds (htree : layout.HasModuleTree reader) {bound : Nat}
    (hbound : reader.Bounded bound) {root : FilePath} (hroot : layout.rootFile? .entry = some root)
    (hfile : reader.isFile root = true) :
    ∃ items full files, reader.read root = .ok items ∧
      Unfolds reader (.ofRoot root) items full files ∧
      ((root :: files).map (·.components)).Nodup ∧ (root :: files).length < bound := by
  have hfinds : layout.Finds reader ⟨.entry, root, []⟩ := .root hroot hfile
  obtain ⟨items, hread⟩ := htree.reads hfinds
  rcases htree.unfolds_file bound hfinds hread with ⟨full, files, hunfolds⟩ | hlong
  · -- At this depth exactly the files are named that are put in place, so they are different.
    have hnamed : reader.namedFiles (files.length + 1) (.ofRoot root) = files := by
      have hread : reader.read (ModuleFile.ofRoot root).file = .ok items := hread
      simp only [SourceReader.namedFiles, hread]
      exact hunfolds.namedByItems_eq (Nat.le_refl _)
    have hnodup := htree.nodup hroot (files.length + 1)
    rw [hnamed] at hnodup
    refine ⟨items, full, files, hread, hunfolds, hnodup, hbound _ ?_ hnodup⟩
    exact List.forall_mem_cons.mpr ⟨hfile, hunfolds.isFile_of_mem⟩
  · -- All the files would be different.
    have hless := hbound _ (List.forall_mem_cons.mpr
      ⟨hfile, SourceReader.isFile_of_mem_namedFiles bound (.ofRoot root)⟩) (htree.nodup hroot bound)
    rw [List.length_cons] at hless
    have hlong : bound ≤ (reader.namedFiles bound (.ofRoot root)).length := hlong
    omega

end HasModuleTree

/-- What the entry target declares, given the unfolded items of its root file. -/
def declared (layout : PackageLayout) (full : List SourceItem) : Except Failure Program :=
  let path : ItemPath := ⟨.target .entry, []⟩
  let start := Scan.empty.withEntryPoint (layout.setting .empty .entry) path full
  start.program.declareItems layout.libraryName (.ofItems path full) full

/-- A scan of a package declares what the unfolded items declare, and it reads the root file and
then all the files that are put in place. -/
theorem scan_of_unfolds {root : FilePath} {items full : List SourceItem} {files : List FilePath}
    {fuel : Nat} (hlibrary : (layout.rootFile? .library).filter reader.isFile = none)
    (hroot : layout.rootFile? .entry = some root) (hfile : reader.isFile root = true)
    (hread : reader.read root = .ok items) (h : Unfolds reader (.ofRoot root) items full files)
    (hnodup : ((root :: files).map (·.components)).Nodup)
    (hfuel : (root :: files).length ≤ fuel) :
    layout.scan reader fuel = (layout.declared full).map (Scan.empty.after (root :: files)) := by
  obtain ⟨fuel, rfl⟩ : ∃ less, fuel = less + 1 := ⟨fuel - 1, by simp at hfuel; omega⟩
  have hscan : layout.scan reader (fuel + 1) =
      Scan.scanFile (layout.setting reader .entry) (fuel + 1) .empty (.ofRoot root)
        ⟨.target .entry, []⟩ := by
    simp only [scan, scanTarget, hlibrary, hroot, Option.filter_some, hfile, if_true]
    rfl
  have hnew : (ModuleFile.ofRoot root).file.components ∉ Scan.empty.loaded := nofun
  rw [hscan, Scan.scanFile_of_new hnew hread,
    Scan.record_withEntryPoint, ← h.withEntryPoint_eq, ← h.ofItems_eq]
  -- The scan goes on from the entry point, with the root file read.
  generalize hstart : Scan.empty.withEntryPoint (layout.setting reader .entry) ⟨.target .entry, []⟩
    full = start
  have hfresh : start.IsFresh (root :: files) := by
    refine ⟨hnodup, fun _ _ => ?_⟩
    rw [← hstart, Scan.loaded_withEntryPoint]
    exact nofun
  have hafter : (start.record root).after files = Scan.empty.after (root :: files) := by
    funext program
    rw [Scan.after_record, ← hstart, Scan.after_withEntryPoint]
  refine (Scan.scanItems_of_unfolds h (by simpa using hfuel) hfresh.tail).trans ?_
  rw [hafter, ← hstart]
  rfl

end PackageLayout

end RouteRegistrar
