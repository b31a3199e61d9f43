import RouteRegistrar.Build.Run
import RouteRegistrar.Proofs.Files.Repetition
import RouteRegistrar.Proofs.Source.Dependence
import RouteRegistrar.Proofs.Settings.Orders
import RouteRegistrar.Proofs.Source.Questions

/-!
# Building again

A build asks whether there are files in certain places: where its settings file may be, and where
its sources may be. What it reads from these files is all that its inputs depend on.

A build that succeeds leaves nothing to do for the next one, if it changes none of these files: if
none of them lies below the directory for the artifacts, and if none of them can be reached only
since the build has created that directory. The second condition is needed, since the path of a
source may lead through a directory that does not exist yet.

The next build may gather the settings in another order. They have to be definite, then, for both
builds to read the same ones.
-/

namespace RouteRegistrar

/-! ## Stores that agree -/

namespace FileStore

variable {store next : FileStore} {path : FilePath}

/-- Two stores have a file in the same places, and the same one. -/
structure AgreesAt (store other : FileStore) (path : FilePath) : Prop where
  isFile : other.isFile path = store.isFile path
  find : store.isFile path = true → other.find path = store.find path

/-- A path that leads to one entry in two stores finds the same. -/
theorem find_congr {location : Location} (hstore : store.locate path = .ok location)
    (hnext : next.locate path = .ok location) (h : next.lookup location = store.lookup location) :
    next.find path = store.find path := by
  simp only [FileStore.find, hstore, hnext, h, bind, Except.bind]

/-- A store that has grown agrees on a path, unless it leads to a file that has been written or
that has come into reach. -/
theorem Grows.agreesAt {written : List Location} (h : Grows store next written)
    (hkept : next.isFile path = true → store.isFile path = true ∧
      ∀ location ∈ written, next.locate path ≠ .ok location) :
    store.AgreesAt next path := by
  constructor
  · rw [Bool.eq_iff_iff]
    exact ⟨fun hfile => (hkept hfile).1, h.isFile⟩
  · intro hfile
    obtain ⟨location, content, hlocate, hlookup, -⟩ := locate_of_isFile hfile
    have hnext := h.locate hlocate
    -- A file of the second store is at no location that was written, so it is the old file.
    have hwritten : location ∉ written := fun hmem =>
      (hkept (h.isFile hfile)).2 location hmem hnext
    refine find_congr hlocate hnext ?_
    -- Directories may be new, but here there was a file.
    rcases h.entry hwritten with hsame | ⟨hnone, -⟩
    · exact hsame
    · rw [hlookup] at hnone
      cases hnone

/-- Stores that agree on what a scan asks for give the same scan. -/
theorem AgreesAt.reader (h : store.AgreesAt next path) : store.reader.AgreesAt next.reader path :=
  ⟨h.isFile, fun hfile => readItems_congr (h.find hfile)⟩

end FileStore

/-! ## Settings -/

namespace GatheredSettings

variable {store other : FileStore} {root : FilePath} {order : GatheringOrder}

/-- Stores that agree on the settings file have the same settings in it. -/
theorem fileSource?_congr (h : ∀ place ∈ places order root, store.AgreesAt other place.1) :
    fileSource? order other root = fileSource? order store root := by
  -- The same places are files, so the same one is found.
  have hfile : file? order other root = file? order store root := by
    rw [file?, file?]
    apply List.find?_congr
    intro place hplace
    exact (h place hplace).isFile
  unfold fileSource?
  rw [hfile]
  cases hfound : file? order store root with
  | none => rfl
  | some place =>
    rw [file?] at hfound
    -- What is found is a file, and there the stores agree about its text.
    have hread : other.readText place.1 = store.readText place.1 := by
      have hisFile : store.isFile place.1 = true := by simpa using List.find?_some hfound
      rw [FileStore.readText, FileStore.readText,
        (h place (List.mem_of_find?_eq_some hfound)).find hisFile]
    simp only [hread]

end GatheredSettings

/-! ## Builds -/

namespace Build

/-- Where the sources of a build are. -/
def Inputs.layout (inputs : Inputs) (environment : Environment) : PackageLayout :=
  inputs.settings.layout inputs.root (environment.lookup packageVariable)

/-- The files that a build asks for. -/
inductive Asks (store : FileStore) (environment : Environment) (inputs : Inputs) :
    FilePath → Prop where
  /-- A place for the settings file. -/
  | settings {place : FilePath × SettingsFormat} :
      place ∈ GatheredSettings.places .written inputs.root → Asks store environment inputs place.1
  /-- A place for a source file. -/
  | source {path : FilePath} :
      (inputs.layout environment).Asks store.reader path → Asks store environment inputs path

variable {store other : FileStore} {environment : Environment} {inputs : Inputs}
  {order : GatheringOrder}

/-- Stores that agree on what a build asks for give the same inputs, in any order of gathering the
settings if these are definite. -/
theorem readInputs_congr (hinputs : readInputs order store environment = .ok inputs)
    (hdefinite : Settings.IsDefinite store inputs.root environment)
    (h : ∀ path, Asks store environment inputs path → store.AgreesAt other path)
    (again : GatheringOrder) : readInputs again other environment = .ok inputs := by
  obtain ⟨root, hroot, hinputs⟩ := bind_eq_ok.mp hinputs
  obtain ⟨directory, hdirectory, hinputs⟩ := bind_eq_ok.mp hinputs
  obtain ⟨settings, hsettings, hinputs⟩ := bind_eq_ok.mp hinputs
  obtain ⟨scan, hscan, hinputs⟩ := bind_eq_ok.mp hinputs
  cases hinputs
  -- The settings: the same file gives the same text, and no order changes what is read from it.
  have hsame : GatheredSettings.fileSource? again other root =
      GatheredSettings.fileSource? again store root :=
    GatheredSettings.fileSource?_congr fun _ hplace =>
      h _ (.settings (GatheredSettings.mem_places_iff.mp hplace))
  have hread : Settings.readIn again other root environment = .ok settings := by
    rw [Settings.readIn, GatheredSettings.ofPackage, GatheredSettings.sources, hsame]
    exact Settings.readIn_of_isDefinite hdefinite hsettings again
  -- The source: the scan asks for paths only at which the stores agree.
  have hagain : (settings.layout root (environment.lookup packageVariable)).scanStore other =
      .ok scan := by
    have hagrees : store.reader.Agrees other.reader
        (settings.layout root (environment.lookup packageVariable)) :=
      fun _ hasks => (h _ (.source hasks)).reader
    exact (PackageLayout.scan_congr hagrees FileStore.pathCount).trans hscan
  simp only [readInputs, hroot, hdirectory, hread, hagain, bind, Except.bind, pure, Except.pure]

/-- A build with inputs prints what it watches, and makes a pass. -/
theorem runIn_of_readInputs (hinputs : readInputs order store environment = .ok inputs) :
    runIn order store environment = ⟨watchLines store inputs.root inputs.scan.files,
      store.runInto inputs.directory inputs.scan.program inputs.settings .never⟩ := by
  rw [runIn, hinputs]

/-- **A repeated build is silent.** After a build that succeeds, with different plain names for its
artifacts and with definite settings, the same build prints the same lines, writes nothing and
succeeds, if none of the files that it asks for lies below its directory or has come into reach.
Both builds may gather the settings in orders of their own. -/
theorem run_again {first : Outcome} {again : GatheringOrder}
    (hinputs : readInputs order store environment = .ok inputs)
    (hfirst : runIn order store environment = first) (hok : first.output.result = .ok ())
    (hattributes : IsPlainName inputs.settings.attributesArtifact)
    (hregistrations : IsPlainName inputs.settings.registrationsArtifact)
    (hne : inputs.settings.attributesArtifact ≠ inputs.settings.registrationsArtifact)
    (hdefinite : Settings.IsDefinite store inputs.root environment)
    (hasked : ∀ path, Asks store environment inputs path →
      first.output.store.isFile path = true →
      store.isFile path = true ∧ ¬first.output.store.LiesBelow path inputs.directory) :
    runIn again first.output.store environment = ⟨first.lines, first.output.store, [], .ok ()⟩ := by
  rw [runIn_of_readInputs hinputs] at hfirst
  subst hfirst
  obtain ⟨hgrows, hplaces⟩ := FileStore.grows_runInto hok
  have hsilent := FileStore.runInto_again hok hattributes hregistrations hne
  generalize hafter : (store.runInto inputs.directory inputs.scan.program inputs.settings
    .never).store = after at *
  -- The build has written nothing that it asks for.
  have hagrees : ∀ path, Asks store environment inputs path → store.AgreesAt after path := by
    intro path hasks
    refine hgrows.agreesAt fun hfile => ?_
    obtain ⟨hold, hbelow⟩ := hasked path hasks hfile
    refine ⟨hold, fun location hmem hlocate => hbelow ?_⟩
    obtain ⟨name, hname, hplace⟩ := hplaces location hmem
    have hplain : IsPlainName name := by
      rcases List.mem_pair.mp hname with rfl | rfl
      · exact hattributes
      · exact hregistrations
    obtain ⟨base, hbase, rfl⟩ := FileStore.locate_join_of_plain hplain hplace
    exact ⟨base, name, [], hbase, hlocate⟩
  have hlines : watchLines after inputs.root inputs.scan.files =
      watchLines store inputs.root inputs.scan.files := by
    have hsettings : after.isFile (inputs.root.join Settings.fileName) =
        store.isFile (inputs.root.join Settings.fileName) :=
      (hagrees _ (.settings List.mem_cons_self)).isFile
    rw [watchLines, watchLines, hsettings]
  rw [runIn_of_readInputs (readInputs_congr hinputs hdefinite hagrees again), hlines, hsilent]

/-! ## Packages as examples -/

/-- The opposite of the order in which settings are written. -/
def reversed : GatheringOrder where
  formats := SettingsFormat.all.reverse
  formats_perm := List.reverse_perm _
  entriesOf source := source.entries.reverse
  entriesOf_perm _ := List.reverse_perm _

/-- A package with a root file and a file for a module. -/
def packageOf (main : String) : FileStore :=
  (FileStore.empty.insert ["pkg", "src", "main.rs"] (.file main.toUTF8)).insert
    ["pkg", "src", "extra.rs"] (.file "pub struct Extra;".toUTF8)

/-- The variables of a build of this package. Its artifacts go elsewhere. -/
def variablesWith (more : Environment) : Environment :=
  (rootVariable, "pkg") :: (outputVariable, "out") :: more

/-- The layout of this package, without a name and with the settings of a package that changes
none. -/
def packageLayout : PackageLayout := Settings.default.layout ⟨"pkg"⟩ none

/-- The inputs of a build of this package. -/
def packageInputs (scan : Scan) : Inputs := ⟨⟨"pkg"⟩, ⟨"out"⟩, Settings.default, scan⟩

/-- The pass of this package. -/
def packagePass (store : FileStore) : Output :=
  store.runInto ⟨"out"⟩ (.empty (some ⟨"main", "crate"⟩)) Settings.default .never

/-- Where a build of this package looks for its settings file, and for the sources in a list. -/
def packagePaths (sources : List FilePath) : List FilePath :=
  (GatheredSettings.places .written ⟨"pkg"⟩).map (·.1) ++ sources

variable {more : Environment} {scan : Scan} {path : FilePath} {sources : List FilePath}

theorem readInputs_of_scanStore (hmore : more.lookup packageVariable = none)
    (hsettings : (Settings.readIn order store ⟨"pkg"⟩ (variablesWith more)).toOption =
      some .default)
    (hscan : packageLayout.scanStore store = .ok scan) :
    readInputs order store (variablesWith more) = .ok (packageInputs scan) := by
  have hroot : pathIn (variablesWith more) rootVariable = .ok ⟨"pkg"⟩ := rfl
  have hdirectory : pathIn (variablesWith more) outputVariable = .ok ⟨"out"⟩ := rfl
  have hname : (variablesWith more).lookup packageVariable = none := hmore
  -- With default settings and no package name, the layout is the default one.
  rw [packageLayout] at hscan
  simp only [readInputs, hroot, hdirectory, hname, eq_ok_of_toOption hsettings, hscan, bind,
    Except.bind, pure, Except.pure, packageInputs]

/-- Without settings nothing is built. -/
theorem result_ne_ok_of_readIn
    (h : (Settings.readIn order store ⟨"pkg"⟩ (variablesWith more)).toOption = none) :
    (runIn order store (variablesWith more)).output.result ≠ .ok () := by
  have hroot : pathIn (variablesWith more) rootVariable = .ok ⟨"pkg"⟩ := rfl
  have hdirectory : pathIn (variablesWith more) outputVariable = .ok ⟨"out"⟩ := rfl
  cases hread : Settings.readIn order store ⟨"pkg"⟩ (variablesWith more) with
  | ok settings =>
    rw [hread] at h
    cases h
  | error failure =>
    have hinputs : readInputs order store (variablesWith more) = .error failure := by
      simp only [readInputs, hroot, hdirectory, hread, bind, Except.bind]
    rw [runIn, hinputs]
    exact nofun

/-- What a build of this package asks for is what can be computed. -/
theorem Asks.mem_packagePaths {fuel : Nat} (hmore : more.lookup packageVariable = none)
    (hasks : Asks store (variablesWith more) (packageInputs scan) path)
    (h : packageLayout.questions? store.reader fuel = some sources) :
    path ∈ packagePaths sources := by
  cases hasks with
  | settings hplace => exact List.mem_append_left _ (List.mem_map_of_mem hplace)
  | source hasks =>
    -- The layout is that of the defaults, as no variable names the package.
    have hlayout : (packageInputs scan).layout (variablesWith more) = packageLayout := by
      have hname : (variablesWith more).lookup packageVariable = none := hmore
      rw [Inputs.layout, hname]
      rfl
    rw [hlayout] at hasks
    exact List.mem_append_right _ (hasks.mem_questions h)

/-- Whether a path leads elsewhere than below `out`. -/
def leadsElsewhere (store : FileStore) (path : FilePath) : Bool :=
  !(store.locate path).toOption.any fun location => ["out"].isPrefixOf location

theorem not_liesBelow_of_leadsElsewhere (h : leadsElsewhere store path = true) :
    ¬store.LiesBelow path ⟨"out"⟩ := by
  rintro ⟨base, name, inner, hbase, hlocate⟩
  have hout : store.base ⟨"out"⟩ = .ok ["out"] := rfl
  rw [hout] at hbase
  cases hbase
  rw [leadsElsewhere, hlocate] at h
  cases h

/-- The default names of the artifacts are plain, and they differ. -/
theorem isPlainName_of_default :
    IsPlainName Settings.default.attributesArtifact ∧
      IsPlainName Settings.default.registrationsArtifact ∧
      Settings.default.attributesArtifact ≠ Settings.default.registrationsArtifact := by
  refine ⟨⟨?_, ?_, ?_, ?_⟩, ⟨?_, ?_, ?_, ?_⟩, ?_⟩ <;> decide +kernel

theorem eq_of_runIn {first : Outcome}
    (hinputs : readInputs order store (variablesWith more) = .ok (packageInputs scan))
    (hprogram : scan.program = .empty (some ⟨"main", "crate"⟩))
    (hfirst : runIn order store (variablesWith more) = first) :
    first.lines = watchLines store ⟨"pkg"⟩ scan.files ∧ first.output = packagePass store := by
  rw [← hfirst, runIn_of_readInputs hinputs, packageInputs, hprogram]
  exact ⟨rfl, rfl⟩

/-! ### A silent build -/

/-- Two variables that set settings to their defaults. -/
def defaultVariables : Environment :=
  [("AOT_ROUTES_LIBRARY_FILE", "src/lib.rs"), ("AOT_ROUTES_INSTALL_TRACING_LOGGER", "on")]

/-- A package whose module is found beside its root file, with a settings file. In the place of an
artifact are bytes that are no text. -/
def stalePackage : FileStore :=
  ((packageOf "mod extra; fn main() \x7b\x7d").insert ["out", "attributes.rs"]
    (.file ⟨#[255]⟩)).insert ["pkg", "aot-routes.json.ini"] (.file "entry_file=src/main.rs".toUTF8)

/-- No two entries of a source begin with one key, and there is one settings file. -/
theorem isDefinite_stalePackage :
    Settings.IsDefinite stalePackage ⟨"pkg"⟩ (variablesWith defaultVariables) := by
  -- Only one settings file is there, and no source names a key twice.
  have hcomputed : (∀ place ∈ GatheredSettings.places .written ⟨"pkg"⟩,
        stalePackage.isFile place.1 = true → place.2 = .ini) ∧
      (GatheredSettings.sources .written stalePackage ⟨"pkg"⟩
        (variablesWith defaultVariables)).toOption.map
          (·.map fun source => GatheredSettings.keysOf source.entries) =
        some [["entry_file"], ["library_file", "install_tracing_logger"]] := by
    decide +kernel
  obtain ⟨hfiles, hkeys⟩ := hcomputed
  constructor
  · intro _ place hplace another hanother hfile hother
    rw [hfiles place hplace hfile, hfiles another hanother hother]
  · intro found hfound
    rw [hfound] at hkeys
    have hkeys : found.map (fun source => GatheredSettings.keysOf source.entries) =
        [["entry_file"], ["library_file", "install_tracing_logger"]] := Option.some.inj hkeys
    have hnodup : ∀ keys ∈ found.map (fun source => GatheredSettings.keysOf source.entries),
        keys.Nodup := by
      rw [hkeys]
      decide
    exact GatheredSettings.isSettled_of_nodup fun source hsource =>
      hnodup _ (List.mem_map_of_mem hsource)

/-- The first build replaces the bytes that are no text. The second one gathers its settings in the
opposite order, finds the artifacts, and is silent. -/
theorem run_again_over_invalid_text :
    ∃ first, runIn .written stalePackage (variablesWith defaultVariables) = first ∧
      first.output.result = .ok () ∧
      first.output.written = [["out", "attributes.rs"], ["out", "web_application_extensions.rs"]] ∧
      runIn reversed first.output.store (variablesWith defaultVariables) =
        ⟨first.lines, first.output.store, [], .ok ()⟩ := by
  -- Everything about the first run, evaluated once: inputs, output and the paths that it asks for.
  have hcomputed : (packageLayout.scanStore stalePackage).toOption.map (·.program) =
        some (.empty (some ⟨"main", "crate"⟩)) ∧
      (Settings.readIn .written stalePackage ⟨"pkg"⟩ (variablesWith defaultVariables)).toOption =
        some .default ∧
      (packagePass stalePackage).result.toOption = some () ∧
      (packagePass stalePackage).written =
        [["out", "attributes.rs"], ["out", "web_application_extensions.rs"]] ∧
      packageLayout.questions? stalePackage.reader 3 = some [⟨"pkg/src/lib.rs"⟩,
        ⟨"pkg/src/main.rs"⟩, ⟨"pkg/src/extra.rs"⟩, ⟨"pkg/src/extra/mod.rs"⟩] ∧
      ∀ path ∈ packagePaths [⟨"pkg/src/lib.rs"⟩, ⟨"pkg/src/main.rs"⟩, ⟨"pkg/src/extra.rs"⟩,
          ⟨"pkg/src/extra/mod.rs"⟩],
        (packagePass stalePackage).store.isFile path = true →
        stalePackage.isFile path = true ∧
          leadsElsewhere (packagePass stalePackage).store path = true := by
    decide +kernel
  obtain ⟨hscanned, hsettings, hpass, hwritten, hquestions, hasked⟩ := hcomputed
  obtain ⟨scan, hscan, hprogram⟩ := exists_ok_of_map_toOption hscanned
  have hmore : defaultVariables.lookup packageVariable = none := by decide
  have hinputs := readInputs_of_scanStore hmore hsettings hscan
  obtain ⟨first, hfirst⟩ :
      ∃ first, runIn .written stalePackage (variablesWith defaultVariables) = first := ⟨_, rfl⟩
  obtain ⟨-, houtput⟩ := eq_of_runIn hinputs hprogram hfirst
  have hok := eq_ok_of_toOption hpass
  rw [← houtput] at hok hwritten hasked
  obtain ⟨hattributes, hregistrations, hne⟩ := isPlainName_of_default
  refine ⟨first, hfirst, hok, hwritten, ?_⟩
  -- What is left is that no path of the inputs leads to a file that the first run wrote.
  apply run_again hinputs hfirst hok hattributes hregistrations hne isDefinite_stalePackage
  intro path hasks hfile
  obtain ⟨hold, helsewhere⟩ := hasked path (hasks.mem_packagePaths hmore hquestions) hfile
  exact ⟨hold, not_liesBelow_of_leadsElsewhere helsewhere⟩

/-! ### Builds that differ -/

/-- A build that succeeds, with different plain names for its artifacts. Nothing that it or the same
build after it asks for lies below its directory. -/
structure SucceedsApart (order : GatheringOrder) (store : FileStore) (environment : Environment)
    (inputs : Inputs) (first : Outcome) : Prop where
  readInputs_eq : readInputs order store environment = .ok inputs
  runIn_eq : runIn order store environment = first
  succeeds : first.output.result = .ok ()
  attributes : IsPlainName inputs.settings.attributesArtifact
  registrations : IsPlainName inputs.settings.registrationsArtifact
  different : inputs.settings.attributesArtifact ≠ inputs.settings.registrationsArtifact
  apart : ∀ path, Asks store environment inputs path ∨
      Asks first.output.store environment inputs path →
    ¬store.LiesBelow path inputs.directory ∧ ¬first.output.store.LiesBelow path inputs.directory

/-- A build that succeeds so, and is not silent when it is repeated with the settings gathered in
another order, or in the same one. -/
def MayDiffer (order again : GatheringOrder) (store : FileStore) (environment : Environment) :
    Prop :=
  ∃ inputs first, SucceedsApart order store environment inputs first ∧
    runIn again first.output.store environment ≠ ⟨first.lines, first.output.store, [], .ok ()⟩

/-- What can be computed of such a build. -/
abbrev ComputesApart (order : GatheringOrder) (store : FileStore) (more : Environment)
    (files sources : List FilePath) : Prop :=
  more.lookup packageVariable = none ∧
    (Settings.readIn order store ⟨"pkg"⟩ (variablesWith more)).toOption = some .default ∧
    (packageLayout.scanStore store).toOption.map (fun scan => (scan.program, scan.files)) =
      some (.empty (some ⟨"main", "crate"⟩), files) ∧
    (packagePass store).result.toOption = some () ∧
    (∀ asked ∈ [store, (packagePass store).store],
      packageLayout.questions? asked.reader 3 = some sources) ∧
    ∀ path ∈ packagePaths sources,
      leadsElsewhere store path = true ∧ leadsElsewhere (packagePass store).store path = true

theorem ComputesApart.exists_succeedsApart {files : List FilePath}
    (h : ComputesApart order store more files sources) : ∃ inputs first,
      SucceedsApart order store (variablesWith more) inputs first ∧
        first.output.store = (packagePass store).store ∧
        first.lines = watchLines store ⟨"pkg"⟩ files := by
  obtain ⟨hmore, hsettings, hscanned, hpass, hquestions, helsewhere⟩ := h
  obtain ⟨scan, hscan, hview⟩ := exists_ok_of_map_toOption hscanned
  obtain ⟨hprogram, hfiles⟩ := Prod.mk.inj hview
  have hinputs := readInputs_of_scanStore hmore hsettings hscan
  obtain ⟨hlines, houtput⟩ := eq_of_runIn hinputs hprogram rfl
  obtain ⟨hattributes, hregistrations, hne⟩ := isPlainName_of_default
  refine ⟨_, _, ⟨hinputs, rfl, ?_, hattributes, hregistrations, hne, ?_⟩, ?_, ?_⟩
  · rw [houtput]
    exact eq_ok_of_toOption hpass
  · intro path hasks
    rw [houtput] at hasks ⊢
    -- A path is asked for in the first run or in the second, and both lists are computed.
    have hmem := hasks.elim (·.mem_packagePaths hmore (hquestions _ List.mem_cons_self))
      (·.mem_packagePaths hmore (hquestions _ (List.mem_cons_of_mem _ List.mem_cons_self)))
    obtain ⟨hbefore, hafter⟩ := helsewhere path hmem
    exact ⟨not_liesBelow_of_leadsElsewhere hbefore, not_liesBelow_of_leadsElsewhere hafter⟩
  · rw [houtput]
  · rw [hlines, hfiles]

/-- A package whose module is found on a detour through the directory for the artifacts, which does
not exist. -/
def detourPackage : FileStore :=
  packageOf "#[path = \"../../out/../pkg/src/extra.rs\"] mod extra; fn main() \x7b\x7d"

/-- The module of this package can be reached only by the second build, which prints another
line. -/
theorem mayDiffer_of_detour : MayDiffer .written .written detourPackage (variablesWith []) := by
  have hcomputed : ComputesApart .written detourPackage [] [⟨"pkg/src/main.rs"⟩]
        [⟨"pkg/src/lib.rs"⟩, ⟨"pkg/src/main.rs"⟩,
          ⟨"pkg/src/../../out/../pkg/src/extra.rs"⟩] ∧
      (Settings.readIn .written (packagePass detourPackage).store ⟨"pkg"⟩
        (variablesWith [])).toOption = some .default ∧
      (packageLayout.scanStore (packagePass detourPackage).store).toOption.map (·.files) =
        some [⟨"pkg/src/main.rs"⟩, ⟨"pkg/src/../../out/../pkg/src/extra.rs"⟩] ∧
      watchLines (packagePass detourPackage).store ⟨"pkg"⟩
          [⟨"pkg/src/main.rs"⟩, ⟨"pkg/src/../../out/../pkg/src/extra.rs"⟩] ≠
        watchLines detourPackage ⟨"pkg"⟩ [⟨"pkg/src/main.rs"⟩] := by
    decide +kernel
  obtain ⟨happart, hsettings, hagain, hlines⟩ := hcomputed
  obtain ⟨inputs, first, hfirst, hstore, hfirstLines⟩ := happart.exists_succeedsApart
  refine ⟨inputs, first, hfirst, fun hsilent => hlines ?_⟩
  -- The second build finds the module in the store that the first one has left.
  obtain ⟨scan, hscan, hfiles⟩ := exists_ok_of_map_toOption hagain
  have hinputs := readInputs_of_scanStore rfl hsettings hscan
  rw [hstore, hfirstLines, runIn_of_readInputs hinputs, packageInputs, hfiles] at hsilent
  exact congrArg Outcome.lines hsilent

/-- One variable sets a setting to its default, and another one puts something below it. -/
def overlappingVariables : Environment :=
  [("AOT_ROUTES_LIBRARY_FILE", "src/lib.rs"), ("AOT_ROUTES_LIBRARY_FILE[0]", "src")]

/-- What the first one of these variables sets is replaced by what the second one puts below it. A
build that takes them in the opposite order succeeds, and the next one may not. -/
theorem mayDiffer_of_overlapping_variables : MayDiffer reversed .written
    (packageOf "fn main() \x7b\x7d") (variablesWith overlappingVariables) := by
  -- In one order the variables give the defaults, in the other one they cannot be read.
  have hcomputed : ComputesApart reversed (packageOf "fn main() \x7b\x7d") overlappingVariables
        [⟨"pkg/src/main.rs"⟩] [⟨"pkg/src/lib.rs"⟩, ⟨"pkg/src/main.rs"⟩] ∧
      (Settings.readIn .written (packagePass (packageOf "fn main() \x7b\x7d")).store ⟨"pkg"⟩
        (variablesWith overlappingVariables)).toOption = none := by
    decide +kernel
  obtain ⟨happart, hsettings⟩ := hcomputed
  obtain ⟨inputs, first, hfirst, hstore, -⟩ := happart.exists_succeedsApart
  refine ⟨inputs, first, hfirst, fun hsilent => result_ne_ok_of_readIn hsettings ?_⟩
  rw [← hstore, hsilent]

/-- A package with settings files in two formats, one of them malformed. -/
def twofoldPackage : FileStore :=
  ((packageOf "fn main() \x7b\x7d").insert ["pkg", "aot-routes.json.ini"] (.file "".toUTF8)).insert
    ["pkg", "aot-routes.json.json"] (.file "\x7b".toUTF8)

/-- A build that looks for the other format first succeeds, and the next one may not. -/
theorem mayDiffer_of_two_settings_files :
    MayDiffer reversed .written twofoldPackage (variablesWith []) := by
  -- In one order the empty file is found first, in the other one the malformed one.
  have hcomputed : ComputesApart reversed twofoldPackage [] [⟨"pkg/src/main.rs"⟩]
        [⟨"pkg/src/lib.rs"⟩, ⟨"pkg/src/main.rs"⟩] ∧
      (Settings.readIn .written (packagePass twofoldPackage).store ⟨"pkg"⟩
        (variablesWith [])).toOption = none := by
    decide +kernel
  obtain ⟨happart, hsettings⟩ := hcomputed
  obtain ⟨inputs, first, hfirst, hstore, -⟩ := happart.exists_succeedsApart
  refine ⟨inputs, first, hfirst, fun hsilent => result_ne_ok_of_readIn hsettings ?_⟩
  rw [← hstore, hsilent]

/-- **A repeated build may differ** if a file that it asks for has come into reach, if its variables
overlap, and if it has two settings files. -/
theorem repeated_builds_may_differ :
    MayDiffer .written .written detourPackage (variablesWith []) ∧
      MayDiffer reversed .written (packageOf "fn main() \x7b\x7d")
        (variablesWith overlappingVariables) ∧
      MayDiffer reversed .written twofoldPackage (variablesWith []) :=
  ⟨mayDiffer_of_detour, mayDiffer_of_overlapping_variables, mayDiffer_of_two_settings_files⟩

end Build

end RouteRegistrar
