import RouteRegistrar.Files.Store
import RouteRegistrar.Source.Layout
import RouteRegistrar.Source.Qualification

/-!
# Scanning a package

The module trees of the library and of the entry target are walked in declaration order, from their
root files along their modules. Each inherent `impl` block of a path type becomes a declared type.

A file is read once, also if both targets or two modules lead to it. A module without a file is
passed over.
-/

namespace RouteRegistrar

/-! ## Source files -/

/-- The files that a scan may read. -/
structure SourceReader where
  isFile : FilePath → Bool
  /-- The items of a file. -/
  read : FilePath → Except Failure (List SourceItem)

/-- Reads the items of a file of a store. -/
def FileStore.readItems (store : FileStore) (path : FilePath) :
    Except Failure (List SourceItem) :=
  match store.readText path with
  | .error fault => .error (.file path.text fault)
  | .ok text =>
    match SourceItem.ofText? text with
    | some items => .ok items
    | none => .error (.malformedSource path.text)

/-- The files of a store as sources. -/
def FileStore.reader (store : FileStore) : SourceReader := ⟨store.isFile, store.readItems⟩

/-- A module that is being scanned. -/
structure ModuleFile where
  /-- The file that holds the module. -/
  file : FilePath
  /-- The directory that holds the files of its child modules. -/
  children : FilePath
  /-- Whether the module stands in place inside the file. -/
  isInline : Bool

namespace ModuleFile

/-- The name of a file that stands for its directory. -/
def directoryFile : String := "mod.rs"

/-- The directory for the child modules of a file that an attribute names. -/
def childrenOfPath (file : FilePath) : FilePath :=
  match file.fileName?, file.parent?, file.fileStem? with
  | some name, some directory, some stem =>
    if name = directoryFile then directory else directory.join ⟨stem⟩
  | _, _, _ => ⟨""⟩

/-- The file of a child module that an attribute names. In an inline module the path is relative to
the directory of its child modules. -/
def ofPath (parent : ModuleFile) (path : String) : ModuleFile :=
  let directory := if parent.isInline then some parent.children else parent.file.parent?
  let file := match directory with
    | some directory => directory.join ⟨path⟩
    | none => ⟨path⟩
  ⟨file, childrenOfPath file, false⟩

/-- The files where a child module may be, in order of precedence. -/
def candidates (parent : ModuleFile) (name : String) (path : Option String) : List ModuleFile :=
  match path with
  | some path => [parent.ofPath path]
  | none =>
    let children := parent.children.join ⟨name⟩
    [⟨parent.children.join ⟨name ++ ".rs"⟩, children, false⟩,
      ⟨children.join ⟨directoryFile⟩, children, false⟩]

/-- A module that stands in place inside another one. -/
def inline (parent : ModuleFile) (name : String) : ModuleFile :=
  ⟨parent.file, parent.children.join ⟨name⟩, true⟩

/-- The root module of a target. -/
def ofRoot (file : FilePath) : ModuleFile := ⟨file, file.parent?.getD ⟨""⟩, false⟩

end ModuleFile

/-! ## Results -/

/-- What a scan has found so far. -/
structure Scan where
  program : Program
  /-- The files that have been read, in order. -/
  files : List FilePath
  /-- The components of the paths of these files. -/
  loaded : List (List String)
  deriving DecidableEq

namespace Scan

/-- A scan that has found nothing. -/
def empty : Scan := ⟨.empty none, [], []⟩

/-- What a scan works with. -/
structure Setting where
  reader : SourceReader
  libraryName : Option String
  target : Target

/-- The name of the function that a program starts with. -/
def entryFunction : String := "main"

/-! ## Declarations -/

/-- The parameters of a method. One that is no plain name is named by its position. -/
def parameters (qualifier : Qualifier) (index : Nat) :
    List SourceParameter → Except Failure (List Parameter)
  | [] => .ok []
  | parameter :: rest => do
    let type ← qualifier.qualify parameter.type
    let found : Parameter := ⟨parameter.name.getD ("arg" ++ toString index), type.text⟩
    return found :: (← parameters qualifier (index + 1) rest)

/-- A method with qualified types. -/
def method (qualifier : Qualifier) (found : SourceMethod) : Except Failure Method := do
  return ⟨found.name, found.markers, ← parameters qualifier 0 found.parameters, found.isAsync,
    found.hasReceiver⟩

/-- Records a type, given its full path. -/
def declare (scan : Scan) (setting : Setting) (path : ItemPath) (name : String)
    (markers : List Marker) (methods : List Method) : Scan :=
  let enclosing := path.parent.text setting.libraryName
  { scan with program := scan.program.declare (some enclosing) name markers methods }

/-- Declares the type of an `impl` block. A block of something else than a path is passed over. -/
def declareBlock (scan : Scan) (setting : Setting) (scope : ModuleScope) (block : SourceBlock) :
    Except Failure Scan :=
  match block.typeNames.bind fun names => names.getLast?.map (names, ·) with
  | none => .ok scan
  | some (names, name) => do
    let path := scope.selfPath names name
    let methods ← block.methods.mapM (method ⟨scope, path, setting.libraryName⟩)
    return scan.declare setting path name block.markers methods

/-! ## Modules -/

/-- How a file is scanned, given the path of its module. -/
abbrev FileScan := Scan → ModuleFile → ItemPath → Except Failure Scan

mutual

/-- Scans an item of a module. -/
def scanItem (setting : Setting) (scanFile : FileScan) (scope : ModuleScope)
    (module : ModuleFile) (scan : Scan) : SourceItem → Except Failure Scan
  | .block content => scan.declareBlock setting scope content
  | .inlineModule name _ items =>
    let path := scope.path.append [name]
    scanItems setting scanFile (.ofItems path items) (module.inline name) scan items
  | .fileModule name path =>
    match (module.candidates name path).find? (setting.reader.isFile ·.file) with
    | some child => scanFile scan child (scope.path.append [name])
    | none => .ok scan
  | _ => .ok scan

/-- Scans the items of a module in order. -/
def scanItems (setting : Setting) (scanFile : FileScan) (scope : ModuleScope)
    (module : ModuleFile) (scan : Scan) : List SourceItem → Except Failure Scan
  | [] => .ok scan
  | item :: rest => do
    let next ← scanItem setting scanFile scope module scan item
    scanItems setting scanFile scope module next rest

end

/-- Records the entry point, if the root file of the entry target has one. -/
def withEntryPoint (scan : Scan) (setting : Setting) (path : ItemPath) (items : List SourceItem) :
    Scan :=
  let isEntry : SourceItem → Bool
    | .function name => name = entryFunction
    | _ => false
  if setting.target = .entry && path.segments.isEmpty && items.any isEntry then
    let entryPoint := ⟨entryFunction, path.text setting.libraryName⟩
    { scan with program := { scan.program with entryPoint := some entryPoint } }
  else scan

/-- Records a file that has been read. -/
def record (scan : Scan) (file : FilePath) : Scan :=
  { scan with files := scan.files ++ [file], loaded := file.components :: scan.loaded }

/-- Scans a file and the files of its modules, nested at most as deep as there is fuel. -/
def scanFile (setting : Setting) : Nat → FileScan
  | 0, scan, _, _ => .ok scan
  | fuel + 1, scan, module, path =>
    if scan.loaded.contains module.file.components then .ok scan
    else do
      let items ← setting.reader.read module.file
      let next := (scan.record module.file).withEntryPoint setting path items
      scanItems setting (scanFile setting fuel) (.ofItems path items) module next items

end Scan

namespace PackageLayout

/-- The root file of a target, if the layout names one. -/
def rootFile? (layout : PackageLayout) : Target → Option FilePath
  | .library => layout.libraryFile.map layout.root.join
  | .entry => some (layout.root.join layout.entryFile)

/-- What the scan of a target works with. -/
def setting (layout : PackageLayout) (reader : SourceReader) (target : Target) : Scan.Setting :=
  ⟨reader, layout.libraryName, target⟩

/-- Scans a target from its root file, if there is one. -/
def scanTarget (layout : PackageLayout) (reader : SourceReader) (fuel : Nat) (scan : Scan)
    (target : Target) : Except Failure Scan :=
  match (layout.rootFile? target).filter reader.isFile with
  | some file =>
    Scan.scanFile (layout.setting reader target) fuel scan (.ofRoot file) ⟨.target target, []⟩
  | none => .ok scan

/-- Scans the library and then the entry target of a package. -/
def scan (layout : PackageLayout) (reader : SourceReader) (fuel : Nat) : Except Failure Scan := do
  let library ← layout.scanTarget reader fuel .empty .library
  layout.scanTarget reader fuel library .entry

/-- Scans a package in a store. The files of a chain of modules have different paths, so the fuel
outlasts every chain. -/
def scanStore (layout : PackageLayout) (store : FileStore) : Except Failure Scan :=
  layout.scan store.reader FileStore.pathCount

end PackageLayout

end RouteRegistrar
