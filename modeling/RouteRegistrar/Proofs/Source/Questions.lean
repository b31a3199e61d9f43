import Mathlib.Data.List.Find
import RouteRegistrar.Proofs.Source.Walk

/-!
# What a scan asks for

A scan asks whether there are files in certain places, also in those where it finds none: the root
file of each target, and the candidates for every module that a walk reaches. Nothing else matters.
Two readers that agree on all these files give the same scan, whether or not it succeeds.
-/

namespace RouteRegistrar

namespace PackageLayout

/-- The files that a scan may ask for. -/
inductive Asks (layout : PackageLayout) (reader : SourceReader) : FilePath → Prop where
  /-- The root file of a target. -/
  | root {target : Target} {file : FilePath} :
      layout.rootFile? target = some file → Asks layout reader file
  /-- A place where the file of a child module may be. -/
  | module {place : ModulePlace} {items : List SourceItem} {name : String}
      {path : Option String} {child : ModuleFile} :
      layout.Walks reader place items → .fileModule name path ∈ items →
      child ∈ place.module.candidates name path → Asks layout reader child.file

end PackageLayout

/-- Two readers find a file in the same places, and read the same from those. -/
structure SourceReader.AgreesAt (reader other : SourceReader) (path : FilePath) : Prop where
  isFile : other.isFile path = reader.isFile path
  read : reader.isFile path = true → other.read path = reader.read path

/-- Two readers agree on everything that a scan with the first one asks for. -/
def SourceReader.Agrees (reader other : SourceReader) (layout : PackageLayout) : Prop :=
  ∀ path, layout.Asks reader path → reader.AgreesAt other path

namespace Scan

variable {layout : PackageLayout} {reader other : SourceReader} {first second : FileScan}

/-- Two scans of files give the same for every file of a target that has been asked for. -/
def FileScan.Agrees (layout : PackageLayout) (reader : SourceReader) (target : Target)
    (first second : FileScan) : Prop :=
  ∀ place : ModulePlace, place.target = target → layout.Opens reader place →
    layout.Asks reader place.module.file →
    ∀ scan, second scan place.module place.path = first scan place.module place.path

/-- Readers that agree find the same file for a child module. -/
theorem find?_candidates (h : reader.Agrees other layout) {place : ModulePlace}
    {items : List SourceItem} {name : String} {path : Option String}
    (hwalks : layout.Walks reader place items) (hmem : .fileModule name path ∈ items) :
    (place.module.candidates name path).find? (other.isFile ·.file) =
      (place.module.candidates name path).find? (reader.isFile ·.file) := by
  apply List.find?_congr
  intro child hchild
  exact (h _ (.module hwalks hmem hchild)).isFile

mutual

/-- Readers that agree give the same for an item if they do for files. -/
theorem scanItem_congr (h : reader.Agrees other layout) {place : ModulePlace}
    {items : List SourceItem} (hwalks : layout.Walks reader place items)
    (hfiles : FileScan.Agrees layout reader place.target first second) (scan : Scan)
    (item : SourceItem) (hmem : item ∈ items) :
    scanItem (layout.setting other place.target) second (place.scope items) place.module scan item =
      scanItem (layout.setting reader place.target) first (place.scope items) place.module scan
        item :=
  match item with
  | .block _ => rfl
  | .inlineModule name path inner => by
    rw [scanItem_inlineModule, scanItem_inlineModule]
    exact scanItems_congr h (hwalks.inline hmem) hfiles scan inner fun _ hitem => hitem
  | .fileModule name path => by
    -- The readers agree about all candidates, so they find the same file.
    have hsame := find?_candidates h hwalks hmem
    cases hfind : (place.module.candidates name path).find? (reader.isFile ·.file) with
    | none =>
      rw [scanItem_fileModule_of_missing hfind, scanItem_fileModule_of_missing (hsame.trans hfind)]
    | some child =>
      rw [scanItem_fileModule_of_find hfind, scanItem_fileModule_of_find (hsame.trans hfind)]
      obtain ⟨hchild, hopens⟩ := hwalks.opens hmem hfind
      have hasks : layout.Asks reader child.file :=
        .module hwalks hmem (List.mem_of_find?_eq_some hfind)
      rw [hchild] at hasks
      exact hfiles _ (place.target_enter _) hopens hasks scan
  | .use _ _ | .function _ | .declaration _ | .other => rfl

/-- Readers that agree give the same for all items if they do for files. -/
theorem scanItems_congr (h : reader.Agrees other layout) {place : ModulePlace}
    {items : List SourceItem} (hwalks : layout.Walks reader place items)
    (hfiles : FileScan.Agrees layout reader place.target first second) (scan : Scan)
    (rest : List SourceItem) (hmem : ∀ item ∈ rest, item ∈ items) :
    scanItems (layout.setting other place.target) second (place.scope items) place.module scan
        rest =
      scanItems (layout.setting reader place.target) first (place.scope items) place.module scan
        rest :=
  match rest with
  | [] => rfl
  | item :: rest => by
    have hfirst := scanItem_congr h hwalks hfiles scan item (hmem item List.mem_cons_self)
    rw [scanItems, scanItems, hfirst]
    refine bind_congr fun between => ?_
    apply scanItems_congr h hwalks hfiles
    exact fun found hfound => hmem found (List.mem_cons_of_mem _ hfound)

end

/-- Readers that agree give the same for a file, however deep files nest. -/
theorem scanFile_congr (h : reader.Agrees other layout) (target : Target) :
    ∀ fuel, FileScan.Agrees layout reader target
      (Scan.scanFile (layout.setting reader target) fuel)
      (Scan.scanFile (layout.setting other target) fuel)
  | 0, _, _, _, _, _ => rfl
  | fuel + 1, place, htarget, hopens, hasks, scan => by
    subst htarget
    rw [Scan.scanFile, Scan.scanFile]
    split
    case isTrue => rfl
    case isFalse =>
      have hread : other.read place.module.file = reader.read place.module.file :=
        (h _ hasks).read hopens.isFile
      show other.read place.module.file >>= _ = reader.read place.module.file >>= _
      rw [hread]
      cases hitems : reader.read place.module.file with
      | error failure => rfl
      | ok items =>
        -- The items of the file are where a walk goes on.
        exact scanItems_congr h (hopens.walks hitems) (scanFile_congr h place.target fuel) _ items
          fun _ hitem => hitem

end Scan

namespace PackageLayout

variable {layout : PackageLayout} {reader other : SourceReader}

/-- Readers that agree give the same for a target. -/
theorem scanTarget_congr (h : reader.Agrees other layout) (fuel : Nat) (scan : Scan)
    (target : Target) :
    layout.scanTarget other fuel scan target = layout.scanTarget reader fuel scan target := by
  rw [scanTarget, scanTarget]
  cases hroot : layout.rootFile? target with
  | none => rfl
  | some file =>
    -- The root file is one of the paths that the readers agree about.
    have hasks : layout.Asks reader file := .root hroot
    rw [Option.filter_some, Option.filter_some, (h file hasks).isFile]
    cases hfile : reader.isFile file with
    | false => rfl
    | true => exact Scan.scanFile_congr h target fuel _ rfl (.root hroot hfile) hasks scan

/-- **What a scan asks for determines it**: readers that agree on these files give the same. -/
theorem scan_congr (h : reader.Agrees other layout) (fuel : Nat) :
    layout.scan other fuel = layout.scan reader fuel := by
  rw [scan, scan, scanTarget_congr h]
  exact bind_congr fun library => scanTarget_congr h fuel library .entry

end PackageLayout

/-! ## Computing the questions -/

namespace SourceReader

mutual

/-- The files that are asked for at an item of a module. `below` gives those of the file of a child
module, or nothing if modules nest too deep. -/
def questionsAt? (reader : SourceReader) (below : ModuleFile → Option (List FilePath))
    (module : ModuleFile) : SourceItem → Option (List FilePath)
  | .inlineModule name _ items => questionsIn? reader below (module.inline name) items
  | .fileModule name path =>
    let candidates := module.candidates name path
    match candidates.find? (reader.isFile ·.file) with
    | none => some (candidates.map (·.file))
    | some child => (below child).map (candidates.map (·.file) ++ ·)
  | _ => some []

/-- The files that are asked for at the items of a module. -/
def questionsIn? (reader : SourceReader) (below : ModuleFile → Option (List FilePath))
    (module : ModuleFile) : List SourceItem → Option (List FilePath)
  | [] => some []
  | item :: rest => do
    let first ← questionsAt? reader below module item
    let more ← questionsIn? reader below module rest
    return first ++ more

end

/-- The files that are asked for below the file of a module, if modules nest at most as deep as
there is fuel. -/
def questionsBelow? (reader : SourceReader) : Nat → ModuleFile → Option (List FilePath)
  | 0, _ => none
  | fuel + 1, module =>
    match reader.read module.file with
    | .error _ => some []
    | .ok items => reader.questionsIn? (reader.questionsBelow? fuel) module items

variable {reader : SourceReader} {below : ModuleFile → Option (List FilePath)}
  {module : ModuleFile} {items : List SourceItem} {files : List FilePath}

/-- What is asked for at an item is asked for in its module. -/
theorem questionsAt?_of_mem {item : SourceItem} (hmem : item ∈ items)
    (h : reader.questionsIn? below module items = some files) :
    ∃ found, reader.questionsAt? below module item = some found ∧ found ⊆ files := by
  induction items generalizing files with
  | nil => cases hmem
  | cons first rest ih =>
    rw [questionsIn?] at h
    obtain ⟨front, hfront, h⟩ := Option.bind_eq_some_iff.mp h
    obtain ⟨more, hmore, h⟩ := Option.bind_eq_some_iff.mp h
    cases h
    -- The paths of the first item come first, then those of the others.
    rcases List.mem_cons.mp hmem with rfl | hrest
    · exact ⟨front, hfront, List.subset_append_left front more⟩
    · obtain ⟨found, hfound, hsubset⟩ := ih hrest hmore
      exact ⟨found, hfound, List.Subset.trans hsubset (List.subset_append_right front more)⟩

/-- All candidates of a child module are asked for, and so is what its file asks for. -/
theorem questionsAt?_fileModule {name : String} {path : Option String}
    (h : reader.questionsAt? below module (.fileModule name path) = some files) :
    (∀ child ∈ module.candidates name path, child.file ∈ files) ∧
      ∀ child, (module.candidates name path).find? (reader.isFile ·.file) = some child →
        ∃ found, below child = some found ∧ found ⊆ files := by
  rw [questionsAt?] at h
  -- All candidates are asked for; if one is a file, so is what its modules ask for.
  split at h
  case h_1 hnone =>
    cases h
    refine ⟨fun child hchild => List.mem_map_of_mem hchild, fun child hfind => ?_⟩
    rw [hnone] at hfind
    cases hfind
  case h_2 found hfound =>
    obtain ⟨more, hmore, h⟩ := Option.map_eq_some_iff.mp h
    subst h
    refine ⟨fun child hchild => ?_, fun child hfind => ?_⟩
    · exact List.mem_append_left _ (List.mem_map_of_mem hchild)
    · cases hfound.symm.trans hfind
      exact ⟨more, hmore, List.subset_append_right _ _⟩

/-- What is asked for below a file is asked for in its items. -/
theorem questionsIn?_of_read {fuel : Nat} (hread : reader.read module.file = .ok items)
    (h : reader.questionsBelow? fuel module = some files) :
    ∃ fuel, reader.questionsIn? (reader.questionsBelow? fuel) module items = some files := by
  cases fuel with
  | zero => cases h
  | succ fuel =>
    rw [questionsBelow?, hread] at h
    exact ⟨fuel, h⟩

end SourceReader

namespace PackageLayout

/-- The files that the scan of a target asks for, if modules nest at most as deep as there is
fuel. -/
def targetQuestions? (layout : PackageLayout) (reader : SourceReader) (fuel : Nat)
    (target : Target) : Option (List FilePath) :=
  match layout.rootFile? target with
  | none => some []
  | some file =>
    if reader.isFile file then (reader.questionsBelow? fuel (.ofRoot file)).map (file :: ·)
    else some [file]

/-- The files that a scan asks for, if modules nest at most as deep as there is fuel. -/
def questions? (layout : PackageLayout) (reader : SourceReader) (fuel : Nat) :
    Option (List FilePath) := do
  let library ← layout.targetQuestions? reader fuel .library
  let entry ← layout.targetQuestions? reader fuel .entry
  return library ++ entry

variable {layout : PackageLayout} {reader : SourceReader} {fuel : Nat} {files : List FilePath}

/-- What is asked for at a target is asked for in the package. -/
theorem targetQuestions?_of_questions? (h : layout.questions? reader fuel = some files)
    (target : Target) :
    ∃ found, layout.targetQuestions? reader fuel target = some found ∧ found ⊆ files := by
  obtain ⟨library, hlibrary, h⟩ := Option.bind_eq_some_iff.mp h
  obtain ⟨entry, hentry, h⟩ := Option.bind_eq_some_iff.mp h
  cases h
  cases target with
  | library => exact ⟨library, hlibrary, List.subset_append_left library entry⟩
  | entry => exact ⟨entry, hentry, List.subset_append_right library entry⟩

/-- At every module that a walk reaches, nothing is asked for but what has been computed. -/
theorem Walks.questionsIn? (h : layout.questions? reader fuel = some files) {place : ModulePlace}
    {items : List SourceItem} (hwalks : layout.Walks reader place items) :
    ∃ fuel found, reader.questionsIn? (reader.questionsBelow? fuel) place.module items =
      some found ∧ found ⊆ files := by
  -- By induction over the walk: the paths of each module inside are among those of its file.
  induction hwalks with
  | @root target file items hroot hfile hread =>
    obtain ⟨found, hfound, hsubset⟩ := targetQuestions?_of_questions? h target
    rw [targetQuestions?, hroot] at hfound
    simp only [hfile, if_true] at hfound
    obtain ⟨more, hmore, rfl⟩ := Option.map_eq_some_iff.mp hfound
    have hread : reader.read (ModuleFile.ofRoot file).file = .ok items := hread
    obtain ⟨fuel, hitems⟩ := SourceReader.questionsIn?_of_read hread hmore
    exact ⟨fuel, more, hitems, List.Subset.trans (List.subset_cons_self file more) hsubset⟩
  | inline _ hmem ih =>
    obtain ⟨fuel, found, hfound, hsubset⟩ := ih
    obtain ⟨inner, hinner, hmore⟩ := SourceReader.questionsAt?_of_mem hmem hfound
    rw [SourceReader.questionsAt?] at hinner
    exact ⟨fuel, inner, hinner, List.Subset.trans hmore hsubset⟩
  | @file place items inner name path file _ hmem hlocate hread ih =>
    obtain ⟨fuel, found, hfound, hsubset⟩ := ih
    obtain ⟨more, hmore, hless⟩ := SourceReader.questionsAt?_of_mem hmem hfound
    obtain ⟨child, hfind, rfl⟩ := Option.map_eq_some_iff.mp hlocate
    obtain ⟨below, hbelow, hleast⟩ := (SourceReader.questionsAt?_fileModule hmore).2 child hfind
    obtain ⟨fuel, hitems⟩ := SourceReader.questionsIn?_of_read hread hbelow
    have hchild := ModuleFile.eq_enter_of_mem_candidates (List.mem_of_find?_eq_some hfind)
    rw [ModulePlace.module_enter, ← hchild]
    exact ⟨fuel, below, hitems, List.Subset.trans hleast (List.Subset.trans hless hsubset)⟩

/-- A scan asks for nothing but what has been computed. -/
theorem Asks.mem_questions {path : FilePath} (hasks : layout.Asks reader path)
    (h : layout.questions? reader fuel = some files) : path ∈ files := by
  cases hasks with
  | @root target file hroot =>
    obtain ⟨found, hfound, hsubset⟩ := targetQuestions?_of_questions? h target
    apply hsubset
    rw [targetQuestions?, hroot] at hfound
    simp only at hfound
    -- The root is asked for whether or not it is there.
    split at hfound
    case isTrue =>
      obtain ⟨more, -, rfl⟩ := Option.map_eq_some_iff.mp hfound
      exact List.mem_cons_self
    case isFalse =>
      cases hfound
      exact List.mem_singleton.mpr rfl
  | module hwalks hmem hchild =>
    obtain ⟨fuel, found, hfound, hsubset⟩ := hwalks.questionsIn? h
    obtain ⟨more, hmore, hless⟩ := SourceReader.questionsAt?_of_mem hmem hfound
    exact hsubset (hless ((SourceReader.questionsAt?_fileModule hmore).1 _ hchild))

end PackageLayout

end RouteRegistrar
