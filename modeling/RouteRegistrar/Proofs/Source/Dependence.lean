import RouteRegistrar.Proofs.Files.Kinds
import RouteRegistrar.Proofs.Source.Walk

/-!
# What a scan depends on

A scan asks of each path whether it is a file, and reads the files that it lists. A second scan, of
files in the same places, gives the same result if the listed files have the same content. So a file
that is not listed may change without any effect on the program.

`Repeats` compares two runs from one scan. It is kept by every construction that a scan is made of,
which gives the statement for items, for files, for targets and for packages.
-/

namespace RouteRegistrar

/-! ## Runs that another reader repeats -/

/-- A run from a scan only adds files, and another run repeats it, if what the files read so far
hold for the first reader, they hold for the other one. -/
structure Scan.Repeats (reader other : SourceReader) (scan : Scan)
    (run rerun : Except Failure Scan) : Prop where
  files {next : Scan} : run = .ok next → scan.files <+: next.files
  rerun {next : Scan} : run = .ok next →
    (∀ file ∈ next.files, other.read file = reader.read file) → rerun = .ok next

/-- Reading files from a scan is repeated by reading them in another way. -/
def Scan.FileScan.Repeats (reader other : SourceReader) (first second : FileScan) : Prop :=
  ∀ scan module path,
    Scan.Repeats reader other scan (first scan module path) (second scan module path)

/-- The same setting with another reader. -/
def Scan.Setting.withReader (setting : Setting) (other : SourceReader) : Setting :=
  { setting with reader := other }

namespace Scan.Repeats

variable {reader other : SourceReader} {scan : Scan} {run rerun : Except Failure Scan}

/-- A run that reads nothing is repeated whatever the files hold. -/
theorem of_files_eq (h : ∀ next, run = .ok next → next.files = scan.files) :
    Repeats reader other scan run run where
  files hrun := h _ hrun ▸ List.prefix_refl scan.files
  rerun hrun _ := hrun

/-- Doing nothing is repeated. -/
theorem done : Repeats reader other scan (.ok scan) (.ok scan) :=
  of_files_eq fun _ h => Except.ok.inj h ▸ rfl

/-- One run after another is repeated by their repetitions. -/
theorem bind {first second : Scan → Except Failure Scan}
    (hrun : Repeats reader other scan run rerun)
    (hnext : ∀ between, Repeats reader other between (first between) (second between)) :
    Repeats reader other scan (run >>= first) (rerun >>= second) := by
  constructor
  · intro next h
    obtain ⟨between, hbetween, h⟩ := bind_eq_ok.mp h
    exact (hrun.files hbetween).trans ((hnext between).files h)
  · intro next h hread
    obtain ⟨between, hbetween, h⟩ := bind_eq_ok.mp h
    -- The files read up to the middle are among those read up to the end.
    have hmid : ∀ file ∈ between.files, other.read file = reader.read file :=
      fun file hfile => hread file (((hnext between).files h).subset hfile)
    exact bind_eq_ok.mpr ⟨between, hrun.rerun hbetween hmid, (hnext between).rerun h hread⟩

/-- Reading a file that is then listed is repeated. -/
theorem read {file : FilePath} {first second : List SourceItem → Except Failure Scan}
    {start : List SourceItem → Scan} (hstart : ∀ items, (start items).files = scan.files ++ [file])
    (hnext : ∀ items, Repeats reader other (start items) (first items) (second items)) :
    Repeats reader other scan (reader.read file >>= first) (other.read file >>= second) := by
  constructor
  · intro next h
    obtain ⟨items, -, h⟩ := bind_eq_ok.mp h
    have hfiles : (start items).files <+: next.files := (hnext items).files h
    rw [hstart] at hfiles
    exact (List.prefix_append ..).trans hfiles
  · intro next h hread
    obtain ⟨items, hitems, h⟩ := bind_eq_ok.mp h
    -- The file itself is listed at the end, so the other reader finds the same items in it.
    have hmem : file ∈ next.files := by
      apply ((hnext items).files h).subset
      simp [hstart]
    have hother : other.read file = .ok items := (hread file hmem).trans hitems
    exact bind_eq_ok.mpr ⟨items, hother, (hnext items).rerun h hread⟩

end Scan.Repeats

/-! ## Scanning again -/

namespace Scan

variable {reader other : SourceReader}

/-- Declaring a type reads no file. -/
theorem files_declareBlock {scan next : Scan} {setting : Setting} {scope : ModuleScope}
    {block : SourceBlock} (h : scan.declareBlock setting scope block = .ok next) :
    next.files = scan.files := by
  rcases declareBlock_cases h with rfl | ⟨_, _, _, _, _, _, rfl⟩
  · rfl
  · rfl

section Items

variable {setting : Setting} {first second : FileScan}

mutual

/-- The scan of an item is repeated if the scans of files are. -/
theorem repeats_scanItem (hkinds : ∀ path, other.isFile path = setting.reader.isFile path)
    (hfiles : FileScan.Repeats setting.reader other first second) (scope : ModuleScope)
    (module : ModuleFile) (scan : Scan) (item : SourceItem) :
    Repeats setting.reader other scan (scanItem setting first scope module scan item)
      (scanItem (setting.withReader other) second scope module scan item) :=
  match item with
  | .block _ => .of_files_eq fun _ h => files_declareBlock h
  | .inlineModule _ _ items => repeats_scanItems hkinds hfiles _ _ scan items
  | .fileModule name path => by
    -- Both readers find the same file, since they have the same files.
    have hsame : (setting.withReader other).reader.isFile = setting.reader.isFile := funext hkinds
    rw [scanItem, scanItem, hsame]
    cases (module.candidates name path).find? (setting.reader.isFile ·.file) with
    | none => exact .done
    | some child => exact hfiles scan child _
  | .use _ _ | .function _ | .declaration _ | .other => .done

/-- The scan of items in order is repeated if the scans of files are. -/
theorem repeats_scanItems (hkinds : ∀ path, other.isFile path = setting.reader.isFile path)
    (hfiles : FileScan.Repeats setting.reader other first second) (scope : ModuleScope)
    (module : ModuleFile) (scan : Scan) (items : List SourceItem) :
    Repeats setting.reader other scan (scanItems setting first scope module scan items)
      (scanItems (setting.withReader other) second scope module scan items) :=
  match items with
  | [] => .done
  | item :: rest => by
    rw [scanItems, scanItems]
    apply Repeats.bind
    · exact repeats_scanItem hkinds hfiles scope module scan item
    · intro between
      exact repeats_scanItems hkinds hfiles scope module between rest

end

/-- The scan of a file is repeated, however deep files nest. -/
theorem repeats_scanFile (hkinds : ∀ path, other.isFile path = setting.reader.isFile path) :
    ∀ fuel, FileScan.Repeats setting.reader other (scanFile setting fuel)
      (scanFile (setting.withReader other) fuel)
  | 0, _, _, _ => .done
  | fuel + 1, scan, module, path => by
    rw [scanFile, scanFile]
    split
    -- A file that has been read is not read again, by neither reader.
    case isTrue => exact .done
    case isFalse =>
      have hstart : ∀ items, ((scan.record module.file).withEntryPoint setting path items).files =
          scan.files ++ [module.file] := by
        intro items
        rw [files_withEntryPoint]
        rfl
      exact .read hstart fun items =>
        repeats_scanItems hkinds (repeats_scanFile hkinds fuel) _ _ _ items

end Items

end Scan

/-! ## Packages -/

namespace PackageLayout

variable {reader other : SourceReader}

/-- The scan of a target is repeated. -/
theorem repeats_scanTarget (hkinds : ∀ path, other.isFile path = reader.isFile path)
    (layout : PackageLayout) (fuel : Nat) (scan : Scan) (target : Target) :
    Scan.Repeats reader other scan (layout.scanTarget reader fuel scan target)
      (layout.scanTarget other fuel scan target) := by
  have hsame : other.isFile = reader.isFile := funext hkinds
  rw [scanTarget, scanTarget, hsame]
  cases (layout.rootFile? target).filter reader.isFile with
  | none => exact .done
  | some file =>
    -- The setting passes the reader on.
    have hsetting : (layout.setting reader target).reader = reader := rfl
    exact Scan.repeats_scanFile (hsetting ▸ hkinds) fuel scan _ _

/-- The scan of a package is repeated. -/
theorem repeats_scan (hkinds : ∀ path, other.isFile path = reader.isFile path)
    (layout : PackageLayout) (fuel : Nat) :
    Scan.Repeats reader other .empty (layout.scan reader fuel) (layout.scan other fuel) := by
  apply Scan.Repeats.bind
  · exact repeats_scanTarget hkinds layout fuel .empty .library
  · intro library
    exact repeats_scanTarget hkinds layout fuel library .entry


end PackageLayout

/-! ## Stores -/

/-- What a path gives to read depends on what it leads to only. -/
theorem FileStore.readItems_congr {store other : FileStore} {path : FilePath}
    (h : other.find path = store.find path) : other.readItems path = store.readItems path := by
  rw [readItems, readItems, readText, readText, h]

namespace PackageLayout

variable {layout : PackageLayout} {store other : FileStore} {result : Scan}

/-- A package as an example: a program with one module, and a file that belongs to no
module. -/
def exampleStore : FileStore :=
  ((FileStore.empty.insert ["src", "main.rs"] (.file "mod api; fn main() \x7b\x7d".toUTF8)).insert
    ["src", "api.rs"] (.file "struct A; impl A \x7b\x7d".toUTF8)).insert
    ["src", "notes.rs"] (.file "struct B;".toUTF8)

/-- **The listed files determine the program**: whatever a package is made of, if a scan of it
succeeds, then so does a scan of any store with the same kinds of entries and the same content of
the listed files, and it finds the same. -/
theorem scanStore_eq_of_find_eq (hkinds : store.SameKinds other)
    (h : layout.scanStore store = .ok result)
    (hcontent : ∀ file ∈ result.files, other.find file = store.find file) :
    layout.scanStore other = .ok result := by
  apply (repeats_scan hkinds.isFile layout FileStore.pathCount).rerun h
  intro file hfile
  exact FileStore.readItems_congr (hcontent file hfile)

/-- A file that belongs to no module may become any text. -/
theorem scanStore_eq_of_changed_notes :
    let layout := PackageLayout.conventional ⟨"."⟩ (some "todo")
    let other := exampleStore.set ["src", "notes.rs"] (.file "struct \x7b".toUTF8)
    ∃ result, result.files = [⟨"./src/main.rs"⟩, ⟨"./src/api.rs"⟩] ∧
      layout.scanStore exampleStore = .ok result ∧ layout.scanStore other = .ok result := by
  intro layout other
  have hfile : exampleStore.lookup ["src", "notes.rs"] = some (.file "struct B;".toUTF8) := rfl
  have hscan : (layout.scanStore exampleStore).toOption.map (·.files) =
      some [⟨"./src/main.rs"⟩, ⟨"./src/api.rs"⟩] := by decide +kernel
  obtain ⟨result, h, hfiles⟩ := exists_ok_of_map_toOption hscan
  refine ⟨result, hfiles, h, ?_⟩
  apply scanStore_eq_of_find_eq (FileStore.sameKinds_set_file hfile _) h
  intro file hmem
  rw [hfiles] at hmem
  -- None of the files that were read is at the place that changes.
  have hother : (exampleStore.locate file).toOption ≠ some ["src", "notes.rs"] := by
    simp only [List.mem_cons, List.not_mem_nil, or_false] at hmem
    rcases hmem with rfl | rfl <;> decide +kernel
  exact FileStore.find_set_file hfile _ fun hlocate => hother (by rw [hlocate]; rfl)

/-- A file that is not listed may change without any effect on the program. -/
theorem scanStore_set_file {location : Location} {content : ByteArray}
    (h : layout.scanStore store = .ok result)
    (hfile : store.lookup location = some (.file content))
    (hlisted : ∀ file ∈ result.files, store.locate file ≠ .ok location) (replacement : ByteArray) :
    layout.scanStore (store.set location (.file replacement)) = .ok result := by
  have hkinds := FileStore.sameKinds_set_file hfile replacement
  apply (repeats_scan hkinds.isFile layout FileStore.pathCount).rerun h
  intro file hmem
  apply FileStore.readItems_congr
  exact FileStore.find_set_file hfile replacement (hlisted file hmem)

end PackageLayout

end RouteRegistrar
