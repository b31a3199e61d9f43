import RouteRegistrar.Source.Scan

/-!
# Walking the modules of a package

A scan walks from the root file of a target along child modules. This module says where a walk can
get to, without running a scan: a place is a target with the steps that lead to a module, and
`Walks` relates it to the items that the module holds.

Its main statement is the induction principle `Invariant.scan`: what every declared block and every
file that is read keeps holds of the result of a scan.
-/

namespace RouteRegistrar

/-! ## Scopes -/

namespace ModuleScope

theorem path_addImport (scope : ModuleScope) (name : Option String) (path : List String) :
    (scope.addImport name path).path = scope.path := by
  unfold addImport
  split <;> rfl

mutual

theorem path_addImports (scope : ModuleScope) (front : List String) (tree : UseTree) :
    (scope.addImports front tree).path = scope.path :=
  match tree with
  | .path name inner => path_addImports scope (front ++ [name]) inner
  | .name name => by
    unfold addImports
    split <;> exact path_addImport ..
  | .rename name newName => path_addImport ..
  | .group trees => path_addAllImports scope front trees
  | .glob => rfl

theorem path_addAllImports (scope : ModuleScope) (front : List String) (trees : List UseTree) :
    (scope.addAllImports front trees).path = scope.path :=
  match trees with
  | [] => rfl
  | tree :: rest => by
    rw [addAllImports, path_addAllImports _ front rest, path_addImports scope front tree]

end

/-- The scope of a module keeps the module's path. -/
theorem path_ofItems (path : ItemPath) (items : List SourceItem) :
    (ofItems path items).path = path := by
  unfold ofItems
  generalize hstart : (⟨path, [], items.filterMap declaredName?⟩ : ModuleScope) = start
  have hpath : start.path = path := by rw [← hstart]
  clear hstart
  induction items generalizing start with
  | nil => exact hpath
  | cons item rest ih =>
    -- Only an import changes the scope, and it changes no path.
    apply ih
    rw [← hpath]
    cases item with
    | use rooted tree => exact path_addImports ..
    | _ => rfl

end ModuleScope

/-! ## Steps to child modules -/

/-- A step from a module to a child module, which stands in place or has a file of its own. `path`
is the path that an attribute gives, `file` is the file that has been found. -/
inductive ModuleStep where
  | inline (name : String) (path : Option String)
  | file (name : String) (path : Option String) (file : FilePath)

namespace ModuleStep

/-- The name of the child module. -/
def name : ModuleStep → String
  | inline name _ => name
  | file name _ _ => name

end ModuleStep

namespace ModuleFile

/-- The child module that a step leads to. -/
def enter (parent : ModuleFile) : ModuleStep → ModuleFile
  | .inline name _ => parent.inline name
  | .file name none file => ⟨file, parent.children.join ⟨name⟩, false⟩
  | .file _ (some _) file => ⟨file, childrenOfPath file, false⟩

/-- The file where a child module is found, by the candidates of a scan. -/
def locate? (parent : ModuleFile) (isFile : FilePath → Bool) (name : String)
    (path : Option String) : Option FilePath :=
  ((parent.candidates name path).find? (isFile ·.file)).map (·.file)

/-- A candidate for a child module is the module that a step to its file leads to. -/
theorem eq_enter_of_mem_candidates {parent child : ModuleFile} {name : String}
    {path : Option String} (h : child ∈ parent.candidates name path) :
    child = parent.enter (.file name path child.file) := by
  -- A path attribute gives one candidate, a name gives two.
  cases path with
  | some path =>
    simp only [candidates, List.mem_singleton] at h
    rw [h]
    rfl
  | none =>
    simp only [candidates, List.mem_cons, List.not_mem_nil, or_false] at h
    rcases h with rfl | rfl <;> rfl

end ModuleFile

/-! ## Places -/

/-- Where a module stands: the target, its root file, and the steps from there, the innermost
first. -/
structure ModulePlace where
  target : Target
  root : FilePath
  steps : List ModuleStep

namespace ModulePlace

/-- The module as a scan keeps it. -/
def module (place : ModulePlace) : ModuleFile :=
  place.steps.foldr (fun step parent => parent.enter step) (.ofRoot place.root)

/-- The full path of the module. -/
def path (place : ModulePlace) : ItemPath :=
  ⟨.target place.target, (place.steps.map (·.name)).reverse⟩

/-- The place of a child module. -/
def enter (place : ModulePlace) (step : ModuleStep) : ModulePlace :=
  { place with steps := step :: place.steps }

@[simp] theorem module_enter (place : ModulePlace) (step : ModuleStep) :
    (place.enter step).module = place.module.enter step := rfl

@[simp] theorem target_enter (place : ModulePlace) (step : ModuleStep) :
    (place.enter step).target = place.target := rfl

@[simp] theorem path_enter (place : ModulePlace) (step : ModuleStep) :
    (place.enter step).path = place.path.append [step.name] := by
  simp [path, enter, ItemPath.append]

/-- The scope of the module, given its items. -/
def scope (place : ModulePlace) (items : List SourceItem) : ModuleScope :=
  .ofItems place.path items

end ModulePlace

namespace PackageLayout

/-- The modules that a walk from the root files can reach, each with its items. `locate` finds the
file of a child module from the place, the name and the path of an attribute. -/
inductive WalksBy (layout : PackageLayout) (reader : SourceReader)
    (locate : ModulePlace → String → Option String → Option FilePath) :
    ModulePlace → List SourceItem → Prop where
  /-- The root module of a target. -/
  | root {target : Target} {file : FilePath} {items : List SourceItem} :
      layout.rootFile? target = some file → reader.isFile file = true →
      reader.read file = .ok items → WalksBy layout reader locate ⟨target, file, []⟩ items
  /-- A child module that stands in place. -/
  | inline {place : ModulePlace} {items inner : List SourceItem} {name : String}
      {path : Option String} :
      WalksBy layout reader locate place items → .inlineModule name path inner ∈ items →
      WalksBy layout reader locate (place.enter (.inline name path)) inner
  /-- A child module with a file. -/
  | file {place : ModulePlace} {items inner : List SourceItem} {name : String}
      {path : Option String} {file : FilePath} :
      WalksBy layout reader locate place items → .fileModule name path ∈ items →
      locate place name path = some file → reader.read file = .ok inner →
      WalksBy layout reader locate (place.enter (.file name path file)) inner

/-- The modules that a scan can reach. -/
abbrev Walks (layout : PackageLayout) (reader : SourceReader) :
    ModulePlace → List SourceItem → Prop :=
  layout.WalksBy reader fun place => place.module.locate? reader.isFile

/-- A place whose module has a file of its own: if that file can be read, a walk reaches its
items. -/
structure Opens (layout : PackageLayout) (reader : SourceReader) (place : ModulePlace) :
    Prop where
  isFile : reader.isFile place.module.file = true
  notInline : place.module.isInline = false
  walks {items : List SourceItem} : reader.read place.module.file = .ok items →
    layout.Walks reader place items

variable {layout : PackageLayout} {reader : SourceReader}

theorem Opens.root {target : Target} {file : FilePath} (hroot : layout.rootFile? target = some file)
    (hfile : reader.isFile file = true) : layout.Opens reader ⟨target, file, []⟩ :=
  ⟨hfile, rfl, fun hread => .root hroot hfile hread⟩

/-- What a scan finds for a module with a file is what a walk can go on to. -/
theorem Walks.opens {place : ModulePlace} {items : List SourceItem} {name : String}
    {path : Option String} {child : ModuleFile} (hwalks : layout.Walks reader place items)
    (hmem : .fileModule name path ∈ items)
    (hfind : (place.module.candidates name path).find? (reader.isFile ·.file) = some child) :
    child = (place.enter (.file name path child.file)).module ∧
      layout.Opens reader (place.enter (.file name path child.file)) := by
  -- A candidate is what entering its file gives, so the walk can go on from there.
  have hchild : child = place.module.enter (.file name path child.file) :=
    ModuleFile.eq_enter_of_mem_candidates (List.mem_of_find?_eq_some hfind)
  have hlocate : place.module.locate? reader.isFile name path = some child.file := by
    simp [ModuleFile.locate?, hfind]
  refine ⟨hchild, ?_, ?_, ?_⟩
  · rw [ModulePlace.module_enter, ← hchild]
    simpa using List.find?_some hfind
  · cases path <;> rfl
  · intro inner hread
    rw [ModulePlace.module_enter, ← hchild] at hread
    exact .file hwalks hmem hlocate hread

end PackageLayout

/-! ## Scanning at a place -/

namespace Scan

variable {layout : PackageLayout} {reader : SourceReader} {scanFile : FileScan}
  {place : ModulePlace} {items : List SourceItem} {scan next : Scan}

/-- A module that stands in place is scanned like any other, at its own place. -/
theorem scanItem_inlineModule (name : String) (path : Option String) (inner : List SourceItem) :
    scanItem (layout.setting reader place.target) scanFile (place.scope items) place.module scan
        (.inlineModule name path inner) =
      scanItems (layout.setting reader place.target) scanFile
        ((place.enter (.inline name path)).scope inner)
        (place.enter (.inline name path)).module scan inner := by
  simp [scanItem, ModulePlace.scope, ModuleScope.path_ofItems, ModuleFile.enter, ModuleStep.name]

/-- A module with a file is scanned at its own place, if there is a file for it. -/
theorem scanItem_fileModule_of_find {name : String} {path : Option String} {child : ModuleFile}
    (hfind : (place.module.candidates name path).find? (reader.isFile ·.file) = some child) :
    scanItem (layout.setting reader place.target) scanFile (place.scope items) place.module scan
        (.fileModule name path) =
      scanFile scan (place.enter (.file name path child.file)).module
        (place.enter (.file name path child.file)).path := by
  have hchild := ModuleFile.eq_enter_of_mem_candidates (List.mem_of_find?_eq_some hfind)
  rw [ModulePlace.module_enter, ← hchild]
  simp [scanItem, PackageLayout.setting, hfind, ModulePlace.scope, ModuleScope.path_ofItems,
    ModuleStep.name]

/-- A module without a file is passed over. -/
theorem scanItem_fileModule_of_missing {name : String} {path : Option String}
    (hfind : (place.module.candidates name path).find? (reader.isFile ·.file) = none) :
    scanItem (layout.setting reader place.target) scanFile (place.scope items) place.module scan
      (.fileModule name path) = .ok scan := by
  simp [scanItem, PackageLayout.setting, hfind]

/-- A block either is passed over, or it declares the type that its path stands for, with all types
in its methods qualified by that path. -/
theorem declareBlock_cases {setting : Setting} {scope : ModuleScope} {block : SourceBlock}
    (h : scan.declareBlock setting scope block = .ok next) :
    next = scan ∨
      ∃ names name methods, block.typeNames = some names ∧ names.getLast? = some name ∧
        block.methods.mapM (method ⟨scope, scope.selfPath names name, setting.libraryName⟩) =
          .ok methods ∧
        next = scan.declare setting (scope.selfPath names name) name block.markers methods := by
  unfold declareBlock at h
  -- A block that is not for a named type is skipped.
  split at h
  case h_1 => exact .inl (Except.ok.inj h).symm
  case h_2 names name hnames =>
    obtain ⟨written, hwritten, hlast⟩ := Option.bind_eq_some_iff.mp hnames
    obtain ⟨last, hlast, hpair⟩ := Option.map_eq_some_iff.mp hlast
    cases hpair
    obtain ⟨methods, hmethods, hnext⟩ := bind_eq_ok.mp h
    exact .inr ⟨names, name, methods, hwritten, hlast, hmethods, (Except.ok.inj hnext).symm⟩

/-- Recording an entry point changes nothing but the entry point. -/
theorem withEntryPoint_eq (scan : Scan) (setting : Setting) (path : ItemPath)
    (items : List SourceItem) :
    ∃ entryPoint, scan.withEntryPoint setting path items =
      { scan with program := { scan.program with entryPoint } } := by
  simp only [withEntryPoint]
  split
  · exact ⟨_, rfl⟩
  · exact ⟨scan.program.entryPoint, rfl⟩

/-- Only the root module of the entry target has the entry point. -/
theorem withEntryPoint_of_not_entryRoot {scan : Scan} {setting : Setting} {path : ItemPath}
    {items : List SourceItem} (h : setting.target = .library ∨ path.segments ≠ []) :
    scan.withEntryPoint setting path items = scan := by
  rw [withEntryPoint, if_neg]
  rcases h with hlibrary | hsegments
  · simp [hlibrary]
  · simp [hsegments]

theorem files_withEntryPoint (scan : Scan) (setting : Setting) (path : ItemPath)
    (items : List SourceItem) : (scan.withEntryPoint setting path items).files = scan.files := by
  obtain ⟨entryPoint, heq⟩ := withEntryPoint_eq scan setting path items
  rw [heq]

/-- Items are scanned one after the other. -/
theorem scanItems_cons {setting : Setting} {scope : ModuleScope} {module : ModuleFile}
    {item : SourceItem} {rest : List SourceItem} :
    scanItems setting scanFile scope module scan (item :: rest) = .ok next ↔
      ∃ between, scanItem setting scanFile scope module scan item = .ok between ∧
        scanItems setting scanFile scope module between rest = .ok next := by
  rw [scanItems]
  exact bind_eq_ok

/-- A file is read unless it has been read before. -/
theorem scanFile_succ {fuel : Nat} :
    Scan.scanFile (layout.setting reader place.target) (fuel + 1) scan place.module place.path =
        .ok next ↔
      (place.module.file.components ∈ scan.loaded ∧ next = scan) ∨
      (place.module.file.components ∉ scan.loaded ∧
        ∃ items, reader.read place.module.file = .ok items ∧
          scanItems (layout.setting reader place.target)
            (Scan.scanFile (layout.setting reader place.target) fuel) (place.scope items)
            place.module ((scan.record place.module.file).withEntryPoint
              (layout.setting reader place.target) place.path items) items = .ok next) := by
  rw [Scan.scanFile]
  -- Reading is skipped for a file that has been read under the same components.
  by_cases hloaded : place.module.file.components ∈ scan.loaded
  · simp [hloaded, eq_comm]
  · have hread : (layout.setting reader place.target).reader = reader := rfl
    simp [hloaded, hread, bind_eq_ok, ModulePlace.scope]

end Scan

/-! ## Invariants of a scan -/

namespace Scan

variable {layout : PackageLayout} {reader : SourceReader} {Inv : Scan → Prop}

/-- What everything that a scan does keeps: declaring a block of a module that has been walked to,
and reading a file that has not been read. -/
structure Invariant (layout : PackageLayout) (reader : SourceReader) (Inv : Scan → Prop) :
    Prop where
  declare {place : ModulePlace} {items : List SourceItem} {block : SourceBlock}
    {scan next : Scan} : layout.Walks reader place items → .block block ∈ items →
    scan.declareBlock (layout.setting reader place.target) (place.scope items) block = .ok next →
    Inv scan → Inv next
  read {place : ModulePlace} {items : List SourceItem} {scan : Scan} :
    layout.Opens reader place → reader.read place.module.file = .ok items →
    place.module.file.components ∉ scan.loaded → Inv scan →
    Inv ((scan.record place.module.file).withEntryPoint (layout.setting reader place.target)
      place.path items)

/-- Scanning the files of a target keeps an invariant. -/
def FileScan.Keeps (layout : PackageLayout) (reader : SourceReader) (Inv : Scan → Prop)
    (scanFile : FileScan) (target : Target) : Prop :=
  ∀ {place : ModulePlace} {scan next : Scan}, place.target = target →
    layout.Opens reader place → scanFile scan place.module place.path = .ok next →
    Inv scan → Inv next

mutual

/-- An item keeps an invariant that its files keep. -/
theorem Invariant.scanItem (hinv : Invariant layout reader Inv) {scanFile : FileScan}
    {place : ModulePlace} {items : List SourceItem} {scan next : Scan}
    (hfiles : scanFile.Keeps layout reader Inv place.target)
    (hwalks : layout.Walks reader place items) (item : SourceItem) (hmem : item ∈ items)
    (h : scanItem (layout.setting reader place.target) scanFile (place.scope items) place.module
      scan item = .ok next) (hscan : Inv scan) : Inv next :=
  match item with
  | .block content => hinv.declare hwalks hmem h hscan
  | .inlineModule name path inner => by
    -- The members are scanned at the place of the module, which has the same target.
    rw [scanItem_inlineModule] at h
    have hinner : scanFile.Keeps layout reader Inv (place.enter (.inline name path)).target :=
      hfiles
    exact hinv.scanItems hinner (hwalks.inline hmem) inner (fun _ hitem => hitem) h hscan
  | .fileModule name path => by
    cases hfind : (place.module.candidates name path).find? (reader.isFile ·.file) with
    | none =>
      rw [scanItem_fileModule_of_missing hfind] at h
      exact Except.ok.inj h ▸ hscan
    | some child =>
      rw [scanItem_fileModule_of_find hfind] at h
      exact hfiles (place.target_enter _) (hwalks.opens hmem hfind).2 h hscan
  | .use _ _ | .function _ | .declaration _ | .other => Except.ok.inj h ▸ hscan

/-- Items keep an invariant that their files keep. -/
theorem Invariant.scanItems (hinv : Invariant layout reader Inv) {scanFile : FileScan}
    {place : ModulePlace} {items : List SourceItem} {scan next : Scan}
    (hfiles : scanFile.Keeps layout reader Inv place.target)
    (hwalks : layout.Walks reader place items) (rest : List SourceItem)
    (hmem : ∀ item ∈ rest, item ∈ items)
    (h : scanItems (layout.setting reader place.target) scanFile (place.scope items) place.module
      scan rest = .ok next) (hscan : Inv scan) : Inv next :=
  match rest with
  | [] => Except.ok.inj h ▸ hscan
  | item :: rest => by
    obtain ⟨between, hitem, hrest⟩ := scanItems_cons.mp h
    have hbetween : Inv between :=
      hinv.scanItem hfiles hwalks item (hmem item List.mem_cons_self) hitem hscan
    exact hinv.scanItems hfiles hwalks rest (fun i hi => hmem i (List.mem_cons_of_mem _ hi))
      hrest hbetween

end

/-- Files keep an invariant, however deep they nest. -/
theorem Invariant.scanFile (hinv : Invariant layout reader Inv) (target : Target) :
    ∀ fuel, FileScan.Keeps layout reader Inv (Scan.scanFile (layout.setting reader target) fuel)
      target
  | 0, _, _, _, _, _, h, hscan => Except.ok.inj h ▸ hscan
  | fuel + 1, place, scan, next, htarget, hopens, h, hscan => by
    subst htarget
    rcases scanFile_succ.mp h with ⟨-, rfl⟩ | ⟨hloaded, items, hread, hitems⟩
    · -- The file has been read before.
      exact hscan
    · exact hinv.scanItems (hinv.scanFile place.target fuel) (hopens.walks hread) items
        (fun _ hitem => hitem) hitems (hinv.read hopens hread hloaded hscan)

/-- A target keeps an invariant. -/
theorem Invariant.scanTarget (hinv : Invariant layout reader Inv) {fuel : Nat} {target : Target}
    {scan next : Scan} (h : layout.scanTarget reader fuel scan target = .ok next)
    (hscan : Inv scan) : Inv next := by
  unfold PackageLayout.scanTarget at h
  split at h
  case h_1 file hroot =>
    obtain ⟨hroot, hfile⟩ := Option.filter_eq_some_iff.mp hroot
    exact hinv.scanFile target fuel rfl (.root hroot hfile) h hscan
  case h_2 => exact Except.ok.inj h ▸ hscan

/-- **Induction over a scan**: what holds of a scan that has found nothing, and is kept by each
block and each file, holds of the result. -/
theorem Invariant.scan (hinv : Invariant layout reader Inv) (hempty : Inv .empty) {fuel : Nat}
    {result : Scan} (h : layout.scan reader fuel = .ok result) : Inv result := by
  obtain ⟨library, hlibrary, hentry⟩ := bind_eq_ok.mp h
  exact hinv.scanTarget hentry (hinv.scanTarget hlibrary hempty)

end Scan

end RouteRegistrar
