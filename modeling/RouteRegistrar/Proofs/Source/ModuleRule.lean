import RouteRegistrar.Proofs.Source.Completeness

/-!
# Where module files belong

The language looks for the files of child modules in the search directory of a module, and for files
that an attribute names relative to its attribute directory. This module states that rule on its own
and says how far a scan keeps to it.

A scan keeps one directory for each module, and departs from the rule in three ways. It looks for a
raw name with its marker. It passes over the attribute of a module that stands in place. And it
takes the children of a file that an attribute names to be in a directory with the name of the file,
unless the file stands for its directory. A chain of modules without these is conventional.
-/

namespace RouteRegistrar

/-! ## The rule -/

/-- A name without the marker of a raw name. -/
def plainName (name : String) : String :=
  match name.toList with
  | 'r' :: '#' :: rest => String.ofList rest
  | _ => name

/-- The directories of a module. -/
structure ModuleBase where
  /-- Where the files of child modules are. -/
  search : FilePath
  /-- What the path of an attribute is relative to. -/
  relative : FilePath
  deriving DecidableEq

namespace ModuleBase

/-- A root file has its own directory. -/
def ofRoot (file : FilePath) : ModuleBase := ⟨file.directory, file.directory⟩

/-- The files where a child module may be, in order of precedence, for a name as it is looked up. -/
def filesNamed (base : ModuleBase) (name : String) (path : Option String) : List FilePath :=
  match path with
  | some path => [base.relative.join ⟨path⟩]
  | none =>
    [base.search.join ⟨name ++ ".rs"⟩, (base.search.join ⟨name⟩).join ⟨ModuleFile.directoryFile⟩]

/-- The files where the rule looks for a child module. Raw names are looked up as plain names. -/
def files (base : ModuleBase) (name : String) (path : Option String) : List FilePath :=
  base.filesNamed (plainName name) path

/-- The file of a child module, by the rule. -/
def locate? (base : ModuleBase) (isFile : FilePath → Bool) (name : String) (path : Option String) :
    Option FilePath :=
  (base.files name path).find? isFile

/-- The directories of a child module, by the rule. -/
def enter (base : ModuleBase) : ModuleStep → ModuleBase
  | .inline name none => ⟨base.search.join ⟨plainName name⟩, base.search.join ⟨plainName name⟩⟩
  | .inline _ (some path) => ⟨base.relative.join ⟨path⟩, base.relative.join ⟨path⟩⟩
  | .file name none file => ⟨base.search.join ⟨plainName name⟩, file.directory⟩
  | .file _ (some _) file => ⟨file.directory, file.directory⟩

/-- A step that leads to the same directories with and without the rule. -/
def IsConventional (base : ModuleBase) : ModuleStep → Prop
  | .inline name none => plainName name = name
  | .inline name (some path) => base.relative.join ⟨path⟩ = base.search.join ⟨name⟩
  | .file name none _ => plainName name = name
  | .file _ (some _) file => file.fileName? = some ModuleFile.directoryFile

end ModuleBase

/-- The directories that a scan uses for a module. -/
def ModuleFile.base (module : ModuleFile) : ModuleBase :=
  ⟨module.children, if module.isInline then module.children else module.file.directory⟩

namespace ModulePlace

/-- The directories of the module, by the rule. -/
def base (place : ModulePlace) : ModuleBase :=
  place.steps.foldr (fun step base => base.enter step) (.ofRoot place.root)

/-- A module on the way to a place. -/
def outer (place : ModulePlace) (steps : List ModuleStep) : ModulePlace := { place with steps }

/-- A scan uses the directories of the rule for the module and for all modules around it. -/
def KeepsRule (place : ModulePlace) : Prop :=
  ∀ steps, steps <:+ place.steps → (place.outer steps).module.base = (place.outer steps).base

/-- A scan tries the files of the rule for a child module. -/
def Tries (place : ModulePlace) (name : String) (path : Option String) : Prop :=
  (place.module.candidates name path).map (·.file) = place.base.files name path

/-- All steps to the module are conventional. -/
def IsConventional (place : ModulePlace) : Prop :=
  ∀ step steps, step :: steps <:+ place.steps → (place.outer steps).base.IsConventional step

end ModulePlace

/-- The modules that the rule leads to. -/
abbrev PackageLayout.HasModule (layout : PackageLayout) (reader : SourceReader) :
    ModulePlace → List SourceItem → Prop :=
  layout.WalksBy reader fun place => place.base.locate? reader.isFile

/-! ## Names -/

/-- A name that is not plain has the marker in front of its plain name. -/
theorem eq_raw_of_plainName_ne {name : String} (h : plainName name ≠ name) :
    name = "r#" ++ plainName name := by
  unfold plainName at h ⊢
  split at h
  case h_1 rest hname =>
    apply String.toList_inj.mp
    simp [hname]
  case h_2 => exact absurd rfl h

/-- A name leads where its plain name leads only if it is plain. -/
theorem join_plainName_iff (base : FilePath) (name suffix : String) :
    base.join ⟨name ++ suffix⟩ = base.join ⟨plainName name ++ suffix⟩ ↔ plainName name = name := by
  constructor
  · intro h
    by_cases hplain : plainName name = name
    · exact hplain
    · -- A raw name makes the path longer, so the two differ.
      have hraw : name ++ suffix = "r#" ++ (plainName name ++ suffix) := by
        rw [← String.append_assoc, ← eq_raw_of_plainName_ne hplain]
      rw [hraw] at h
      exact absurd h (FilePath.join_raw_ne base _)
  · intro h
    rw [h]

/-! ## Files of child modules -/

namespace ModuleFile

variable {module : ModuleFile} {name : String} {path : Option String}

/-- A scan looks where the rule looks, with its own directories and without making names plain. -/
theorem map_file_candidates (module : ModuleFile) (name : String) (path : Option String) :
    (module.candidates name path).map (·.file) = module.base.filesNamed name path := by
  cases path with
  | none => rfl
  | some path =>
    -- A path attribute is relative to the module if it stands in place, else to its file.
    have hfile : (module.ofPath path).file = module.base.relative.join ⟨path⟩ := by
      cases hinline : module.isInline with
      | true => simp [ofPath, base, hinline]
      | false =>
        cases hparent : module.file.parent? with
        | none => simp [ofPath, base, hinline, hparent, FilePath.directory, FilePath.join_empty]
        | some directory => simp [ofPath, base, hinline, hparent, FilePath.directory]
    simp [candidates, ModuleBase.filesNamed, hfile]

/-- The files that are tried for a child module are those of the rule, unless a raw name is looked
up. -/
theorem map_file_candidates_eq_files_iff :
    (module.candidates name path).map (·.file) = module.base.files name path ↔
      (path = none → plainName name = name) := by
  rw [map_file_candidates, ModuleBase.files]
  -- With a path attribute the name does not matter.
  cases path with
  | some path => exact ⟨fun _ => nofun, fun _ => rfl⟩
  | none =>
    constructor
    · intro h _
      exact (join_plainName_iff _ name ".rs").mp (List.cons_eq_cons.mp h).1
    · intro h
      rw [h rfl]

end ModuleFile

/-! ## Directories of child modules -/

/-- The children of a file that an attribute names are in its directory only if the file stands for
that directory. -/
theorem ModuleFile.childrenOfPath_eq_directory_iff {store : FileStore} {file : FilePath}
    (h : store.isFile file = true) :
    childrenOfPath file = file.directory ↔ file.fileName? = some directoryFile := by
  obtain ⟨name, directory, stem, hname, hdirectory, hstem, hne, hrelative⟩ :=
    FilePath.fileStem?_of_isFile h
  have hdir : file.directory = directory := by rw [FilePath.directory, hdirectory]; rfl
  simp only [childrenOfPath, hname, hdirectory, hstem, hdir]
  -- For any other file the children go to a directory of their own.
  by_cases hmod : name = directoryFile
  · simp [hmod]
  · simp [hmod, FilePath.join_ne_self hne hrelative]

/-- A step leads to the directories of the rule exactly if it is conventional. -/
theorem ModuleFile.base_enter_iff {store : FileStore} (module : ModuleFile) (step : ModuleStep)
    (hfile : ∀ name path file, step = .file name path file → store.isFile file = true) :
    (module.enter step).base = module.base.enter step ↔ module.base.IsConventional step := by
  -- A directory keeps a name as it is written, and the rule drops the `r#` of a raw one.
  have hplain : ∀ name, module.children.join ⟨name⟩ = module.children.join ⟨plainName name⟩ ↔
      plainName name = name := by
    intro name
    have hjoin := join_plainName_iff module.children name ""
    rwa [String.append_empty, String.append_empty] at hjoin
  -- For each way to enter a module, both bases are written out: where the children are, and what
  -- a `path` attribute is relative to.
  cases step with
  | inline name path =>
    cases path with
    | none =>
      show ModuleBase.mk _ _ = ModuleBase.mk _ _ ↔ plainName name = name
      rw [ModuleBase.mk.injEq, ← hplain]
      exact and_self_iff
    | some path =>
      show ModuleBase.mk _ _ = ModuleBase.mk _ _ ↔
        module.base.relative.join ⟨path⟩ = module.children.join ⟨name⟩
      rw [ModuleBase.mk.injEq]
      exact and_self_iff.trans eq_comm
  | file name path file =>
    cases path with
    | none =>
      show ModuleBase.mk _ _ = ModuleBase.mk _ _ ↔ plainName name = name
      rw [ModuleBase.mk.injEq, ← hplain]
      exact and_iff_left rfl
    | some path =>
      show ModuleBase.mk _ _ = ModuleBase.mk _ _ ↔ _
      rw [ModuleBase.mk.injEq]
      exact (and_iff_left rfl).trans (childrenOfPath_eq_directory_iff (hfile name _ file rfl))

/-! ## Chains of modules -/

namespace ModulePlace

variable {place : ModulePlace} {step : ModuleStep}

theorem keepsRule_enter_iff : (place.enter step).KeepsRule ↔
    place.KeepsRule ∧ (place.module.enter step).base = place.base.enter step := by
  constructor
  · intro h
    refine ⟨fun steps hsteps => ?_, h _ (List.suffix_refl _)⟩
    exact h steps (hsteps.trans (List.suffix_cons step place.steps))
  · rintro ⟨hplace, hstep⟩ steps hsteps
    -- A suffix of the longer chain is this chain, or one of the shorter chain.
    rcases List.suffix_cons_iff.mp hsteps with rfl | hsteps
    · exact hstep
    · exact hplace steps hsteps

theorem isConventional_enter_iff : (place.enter step).IsConventional ↔
    place.IsConventional ∧ place.base.IsConventional step := by
  constructor
  · intro h
    refine ⟨fun other steps hsteps => ?_, h step place.steps (List.suffix_refl _)⟩
    exact h other steps (hsteps.trans (List.suffix_cons step place.steps))
  · rintro ⟨hplace, hstep⟩ other steps hsteps
    -- As for the rule: the step is the new one, or one of the shorter chain.
    rcases List.suffix_cons_iff.mp hsteps with heq | hsteps
    · cases heq
      exact hstep
    · exact hplace other steps hsteps

/-- The scan of a root file keeps the rule. -/
theorem keepsRule_root (target : Target) (file : FilePath) :
    (ModulePlace.mk target file []).KeepsRule := by
  intro steps hsteps
  rw [List.suffix_nil.mp hsteps]
  rfl

theorem isConventional_root (target : Target) (file : FilePath) :
    (ModulePlace.mk target file []).IsConventional := by
  intro step steps hsteps
  cases List.suffix_nil.mp hsteps

/-- Where directories agree, the files of the rule are tried for plain names and for attributes. -/
theorem tries_iff {name : String} {path : Option String}
    (hbase : place.module.base = place.base) :
    place.Tries name path ↔ (path = none → plainName name = name) := by
  rw [Tries, ← hbase]
  exact ModuleFile.map_file_candidates_eq_files_iff

/-- In a module with a file of its own, attributes always mean what the rule says. -/
theorem tries_of_not_inline (hfile : place.module.isInline = false) (name path : String) :
    place.Tries name (some path) := by
  -- In a file, attributes are relative to the directory of the file, by the rule as in the walk.
  have hrelative : place.module.base.relative = place.base.relative := by
    obtain ⟨target, root, steps⟩ := place
    cases steps with
    | nil => rfl
    | cons step steps =>
      cases step with
      | inline name path => cases hfile
      | file name path file => cases path <;> rfl
  rw [Tries, ModuleFile.map_file_candidates, ModuleBase.files, ModuleBase.filesNamed,
    ModuleBase.filesNamed, hrelative]

/-- A scan finds the file of the rule if it tries the files of the rule. -/
theorem Tries.locate?_eq {name : String} {path : Option String} (h : place.Tries name path)
    (isFile : FilePath → Bool) :
    place.module.locate? isFile name path = place.base.locate? isFile name path := by
  rw [ModuleBase.locate?, ← h, List.find?_map]
  rfl

/-- On a conventional way the directories agree. -/
theorem KeepsRule.base_eq (h : place.KeepsRule) : place.module.base = place.base :=
  h _ (List.suffix_refl _)

end ModulePlace

namespace PackageLayout

variable {layout : PackageLayout} {store : FileStore} {place : ModulePlace}
  {items : List SourceItem}

/-- A step of a walk keeps the rule exactly if it is conventional. -/
theorem keepsRule_enter_iff_isConventional (store : FileStore) {step : ModuleStep}
    (hplace : place.KeepsRule ↔ place.IsConventional)
    (hfile : ∀ name path file, step = .file name path file → store.isFile file = true) :
    (place.enter step).KeepsRule ↔ (place.enter step).IsConventional := by
  rw [ModulePlace.keepsRule_enter_iff, ModulePlace.isConventional_enter_iff, ← hplace]
  -- If the directories agree so far, it is the last step that decides.
  apply and_congr_right
  intro hkeeps
  rw [← hkeeps.base_eq]
  exact ModuleFile.base_enter_iff place.module step hfile

/-- A walk keeps the rule exactly as long as its steps are conventional. -/
theorem Walks.keepsRule_iff (h : layout.Walks store.reader place items) :
    place.KeepsRule ↔ place.IsConventional := by
  induction h with
  | root =>
    exact iff_of_true (ModulePlace.keepsRule_root _ _) (ModulePlace.isConventional_root _ _)
  | inline _ _ ih => exact keepsRule_enter_iff_isConventional store ih nofun
  | @file place items inner name path file _ _ hlocate _ ih =>
    apply keepsRule_enter_iff_isConventional store ih
    intro _ _ _ heq
    cases heq
    -- The walk enters files only, which the step lemma asks for.
    obtain ⟨child, hfind, rfl⟩ := Option.map_eq_some_iff.mp hlocate
    have hchild : store.reader.isFile child.file = true := by simpa using List.find?_some hfind
    exact hchild

/-- A conventional walk leads to a module that the rule leads to. -/
theorem Walks.hasModule (h : layout.Walks store.reader place items)
    (hconventional : place.IsConventional) : layout.HasModule store.reader place items := by
  induction h with
  | root hroot hfile hread => exact .root hroot hfile hread
  | inline _ hmem ih =>
    obtain ⟨houter, -⟩ := ModulePlace.isConventional_enter_iff.mp hconventional
    exact (ih houter).inline hmem
  | @file place items inner name path file hwalks hmem hlocate hread ih =>
    obtain ⟨houter, hstep⟩ := ModulePlace.isConventional_enter_iff.mp hconventional
    have hkeeps : place.KeepsRule := (Walks.keepsRule_iff hwalks).mpr houter
    have htries : place.Tries name path := by
      rw [ModulePlace.tries_iff hkeeps.base_eq]
      rintro rfl
      exact hstep
    -- The file that was located is the one that the rule locates.
    rw [htries.locate?_eq] at hlocate
    exact (ih houter).file hmem hlocate hread

/-- What a scan does with a module that it follows. The directories of the module, and of all
modules around it, are those of the rule exactly on conventional ways. There, the files of the rule
are tried exactly for plain names and for attributes; and for attributes also in every module with a
file of its own. The first file that is there among those tried is read. So for a child module whose
files are tried by the rule, the file of the rule is read, and without such a file the child module
is passed over. -/
structure KeepsModule (layout : PackageLayout) (reader : SourceReader) (result : Scan)
    (place : ModulePlace) (items : List SourceItem) : Prop where
  walks : layout.Walks reader place items
  directories : place.KeepsRule ↔ place.IsConventional
  hasModule : place.IsConventional → layout.HasModule reader place items
  tries {name : String} {path : Option String} : place.IsConventional →
    (place.Tries name path ↔ (path = none → plainName name = name))
  attributes (name path : String) : place.module.isInline = false → place.Tries name (some path)
  locates {name : String} {path : Option String} {file : FilePath} :
    .fileModule name path ∈ items → place.module.locate? reader.isFile name path = some file →
    result.Reads file
  reads {name : String} {path : Option String} {file : FilePath} :
    place.Tries name path → .fileModule name path ∈ items →
    place.base.locate? reader.isFile name path = some file → result.Reads file
  skips {name : String} {path : Option String} {scanFile : Scan.FileScan} {scan : Scan} :
    place.Tries name path → place.base.locate? reader.isFile name path = none →
    Scan.scanItem (layout.setting reader place.target) scanFile (place.scope items) place.module
      scan (.fileModule name path) = .ok scan

/-- A module inside a place that a scan has followed. -/
theorem KeepsModule.of_follows {result : Scan} {inner : ModulePlace}
    {content : List SourceItem} (hwalks : layout.Walks store.reader place items)
    (hcovers : result.Covers store.reader place items)
    (hwithin : place.Within items inner content) :
    layout.KeepsModule store.reader result inner content where
  walks := hwalks.within hwithin
  directories := Walks.keepsRule_iff (hwalks.within hwithin)
  hasModule := Walks.hasModule (hwalks.within hwithin)
  tries hconventional := by
    have hkeeps := (Walks.keepsRule_iff (hwalks.within hwithin)).mpr hconventional
    exact ModulePlace.tries_iff hkeeps.base_eq
  attributes name path hfile := ModulePlace.tries_of_not_inline hfile name path
  locates hmem hlocate := hcovers.reads hwithin hmem hlocate
  reads htries hmem hlocate :=
    hcovers.reads hwithin hmem ((htries.locate?_eq _).trans hlocate)
  skips htries hlocate := by
    have hmissing := (htries.locate?_eq _).trans hlocate
    exact Scan.scanItem_fileModule_of_missing (Option.map_eq_none_iff.mp hmissing)

/-- **Module files**: a scan reads the root files that are there. Each file that it reads is read
once and is the file of a place, and in every module inside that place the scan keeps to the rule
for module files, as far as the steps to the module are conventional. -/
theorem scanStore_keepsRule {result : Scan} (h : layout.scanStore store = .ok result) :
    ∃ places : List ModulePlace, result.files = places.map (·.module.file) ∧
      (result.files.map (·.components)).Nodup ∧
      (∀ target file, layout.rootFile? target = some file → store.isFile file = true →
        result.Reads file) ∧
      ∀ place ∈ places, ∃ items, store.readItems place.module.file = .ok items ∧
        ∀ inner content, place.Within items inner content →
          layout.KeepsModule store.reader result inner content := by
  obtain ⟨places, hfiles, hnodup, hfollows, hroots⟩ := scan_complete store.bounded_reader h
  refine ⟨places, hfiles, hnodup, hroots, fun place hmem => ?_⟩
  obtain ⟨items, hread, hwalks, hcovers⟩ := hfollows place hmem
  exact ⟨items, hread, fun inner content hwithin => .of_follows hwalks hcovers hwithin⟩

/-- A package with a conventional module, and with a file that an attribute names: the file of its
child module is not read. -/
theorem scanStore_keepsRule_of_named_file :
    let layout := PackageLayout.conventional ⟨"."⟩ none
    let texts : List (Location × String) := [
      (["src", "main.rs"], "mod api; #[path = \"odd/two.rs\"] mod two; fn main() \x7b\x7d"),
      (["src", "api.rs"], "mod inner;"), (["src", "api", "inner.rs"], ""),
      (["src", "odd", "two.rs"], "mod lost;"), (["src", "odd", "lost.rs"], "")]
    let store := texts.foldl (fun store (location, text) =>
      store.insert location (.file text.toUTF8)) FileStore.empty
    ∃ result, layout.scanStore store = .ok result ∧
      result.files = [⟨"./src/main.rs"⟩, ⟨"./src/api.rs"⟩, ⟨"./src/api/inner.rs"⟩,
        ⟨"./src/odd/two.rs"⟩] ∧
      ∃ places : List ModulePlace, result.files = places.map (·.module.file) ∧
        ∀ place ∈ places, ∃ items, store.readItems place.module.file = .ok items ∧
          layout.KeepsModule store.reader result place items := by
  intro layout texts store
  -- The file `odd/lost.rs` is where the rule has it, and it is not among those that were read.
  have hscan : (layout.scanStore store).toOption.map (·.files) = some [⟨"./src/main.rs"⟩,
      ⟨"./src/api.rs"⟩, ⟨"./src/api/inner.rs"⟩, ⟨"./src/odd/two.rs"⟩] := by decide +kernel
  obtain ⟨result, h, hfiles⟩ := exists_ok_of_map_toOption hscan
  obtain ⟨places, hplaces, -, -, hkeeps⟩ := scanStore_keepsRule h
  refine ⟨result, h, hfiles, places, hplaces, fun place hmem => ?_⟩
  obtain ⟨items, hread, hinner⟩ := hkeeps place hmem
  exact ⟨items, hread, hinner place items .here⟩

end PackageLayout

end RouteRegistrar
