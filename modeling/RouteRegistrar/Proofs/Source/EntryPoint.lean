import RouteRegistrar.Proofs.Source.Completeness

/-!
# The entry point of a package

A scan records the entry point while it reads the root file of the entry target. Nothing else
touches it: neither the library nor any module below a root file has an entry point.

So the entry point is found if the root file of the entry target is there and has a function `main`
of its own, with one exception. A file is read once, and the library comes first. If one of its
modules leads to the root file of the entry target, that file counts as read when the entry target
is scanned, and its function `main` is never looked for.
-/

namespace RouteRegistrar

namespace Scan

variable {layout : PackageLayout} {reader : SourceReader} {scan next last : Scan}
  {place : ModulePlace} {items : List SourceItem}

/-! ## Recording the entry point -/

/-- The module of the entry point as it is written. -/
theorem text_entryRoot (libraryName : Option String) :
    (ItemPath.mk (.target .entry) []).text libraryName = "crate" := by
  cases libraryName <;> rfl

/-- The function that a program starts with is found among the items of a file. -/
theorem any_isEntry_iff {items : List SourceItem} :
    (items.any fun item => match item with
      | .function name => decide (name = entryFunction)
      | _ => false) = true ↔ .function entryFunction ∈ items := by
  rw [List.any_eq_true]
  constructor
  · rintro ⟨item, hmem, hitem⟩
    cases item with
    | function name =>
      rwa [← of_decide_eq_true hitem]
    | _ => cases hitem
  · intro hmem
    exact ⟨_, hmem, decide_eq_true rfl⟩

/-- The root file of the entry target gives a scan an entry point if it has a function `main`. -/
theorem entryPoint_withEntryPoint_iff {setting : Setting} {entryPoint : EntryPoint}
    (htarget : setting.target = .entry) (hnone : scan.program.entryPoint = none) :
    (scan.withEntryPoint setting ⟨.target .entry, []⟩ items).program.entryPoint = some entryPoint ↔
      .function entryFunction ∈ items ∧ entryPoint = ⟨entryFunction, "crate"⟩ := by
  unfold withEntryPoint
  simp only [htarget, decide_true, List.isEmpty_nil, Bool.true_and, text_entryRoot]
  -- At the root of the entry target, the entry point is set exactly if there is a main function.
  split
  case isTrue hmain =>
    have hmem := any_isEntry_iff.mp hmain
    simp [hmem, eq_comm]
  case isFalse hmain =>
    have hmem := mt any_isEntry_iff.mpr hmain
    simp [hmem, hnone]

/-! ## Scanning everything else -/

/-- A scan has gone on with files of a target, and has the entry point that it had before. -/
structure Continues (layout : PackageLayout) (reader : SourceReader) (target : Target)
    (scan next : Scan) : Prop where
  entryPoint : next.program.entryPoint = scan.program.entryPoint
  files : ∀ file ∈ next.files, file ∈ scan.files ∨
    ∃ place : ModulePlace, place.target = target ∧ layout.Opens reader place ∧
      place.module.file = file

namespace Continues

variable {target : Target}

theorem refl : Continues layout reader target scan scan := ⟨rfl, fun _ hfile => .inl hfile⟩

theorem trans (h : Continues layout reader target scan next)
    (hlast : Continues layout reader target next last) :
    Continues layout reader target scan last := by
  refine ⟨hlast.entryPoint.trans h.entryPoint, fun file hfile => ?_⟩
  rcases hlast.files file hfile with hold | hnew
  · exact h.files file hold
  · exact .inr hnew

/-- Declaring a type reads no file and is no entry point. -/
theorem declareBlock {setting : Setting} {scope : ModuleScope} {block : SourceBlock}
    (h : scan.declareBlock setting scope block = .ok next) :
    Continues layout reader target scan next := by
  rcases declareBlock_cases h with rfl | ⟨_, _, _, _, _, _, rfl⟩
  · exact refl
  · exact ⟨rfl, fun _ hfile => .inl hfile⟩

/-- Reading the file of a place, which is not that of the entry point. -/
theorem record (hopens : layout.Opens reader place) :
    Continues layout reader place.target scan (scan.record place.module.file) := by
  refine ⟨rfl, fun file hfile => ?_⟩
  rcases List.mem_append.mp hfile with hold | hself
  · exact .inl hold
  · exact .inr ⟨place, rfl, hopens, (List.mem_singleton.mp hself).symm⟩

end Continues

/-- Scanning the files of a target continues a scan, except at the root file of the entry target. -/
def FileScan.Continues (layout : PackageLayout) (reader : SourceReader) (scanFile : FileScan)
    (target : Target) : Prop :=
  ∀ {place : ModulePlace} {scan next : Scan}, place.target = target →
    place.target = .library ∨ place.steps ≠ [] → layout.Opens reader place →
    scanFile scan place.module place.path = .ok next → Scan.Continues layout reader target scan next

mutual

/-- An item continues a scan if files do. -/
theorem continues_scanItem {scanFile : FileScan} {place : ModulePlace} {items : List SourceItem}
    {scan next : Scan} (hfiles : scanFile.Continues layout reader place.target)
    (hwalks : layout.Walks reader place items) (item : SourceItem) (hmem : item ∈ items)
    (h : scanItem (layout.setting reader place.target) scanFile (place.scope items) place.module
      scan item = .ok next) : Scan.Continues layout reader place.target scan next :=
  match item with
  | .block _ => .declareBlock h
  | .inlineModule name path members => by
    rw [scanItem_inlineModule] at h
    have hinner : scanFile.Continues layout reader (place.enter (.inline name path)).target :=
      hfiles
    have hcontinues : Scan.Continues layout reader (place.enter (.inline name path)).target scan
        next :=
      continues_scanItems hinner (hwalks.inline hmem) members (fun _ hitem => hitem) h
    exact hcontinues
  | .fileModule name path => by
    cases hfind : (place.module.candidates name path).find? (reader.isFile ·.file) with
    | none =>
      rw [scanItem_fileModule_of_missing hfind] at h
      cases h
      exact .refl
    | some child =>
      -- A child module is no root module, whatever its target.
      rw [scanItem_fileModule_of_find hfind] at h
      have hopens := (hwalks.opens hmem hfind).2
      exact hfiles (place.target_enter _) (.inr (List.cons_ne_nil _ _)) hopens h
  | .use _ _ | .function _ | .declaration _ | .other => by
    cases h
    exact .refl

/-- Items continue a scan if files do. -/
theorem continues_scanItems {scanFile : FileScan} {place : ModulePlace} {items : List SourceItem}
    {scan next : Scan} (hfiles : scanFile.Continues layout reader place.target)
    (hwalks : layout.Walks reader place items) (rest : List SourceItem)
    (hmem : ∀ item ∈ rest, item ∈ items)
    (h : scanItems (layout.setting reader place.target) scanFile (place.scope items) place.module
      scan rest = .ok next) : Scan.Continues layout reader place.target scan next :=
  match rest with
  | [] => by
    cases h
    exact .refl
  | item :: rest => by
    obtain ⟨between, hitem, hrest⟩ := scanItems_cons.mp h
    exact (continues_scanItem hfiles hwalks item (hmem item List.mem_cons_self) hitem).trans
      (continues_scanItems hfiles hwalks rest (fun i hi => hmem i (List.mem_cons_of_mem _ hi))
        hrest)

end

/-- Files continue a scan, however deep they nest. -/
theorem continues_scanFile (target : Target) :
    ∀ fuel, FileScan.Continues layout reader
      (Scan.scanFile (layout.setting reader target) fuel) target
  | 0, _, _, _, _, _, _, h => by
    cases h
    exact .refl
  | fuel + 1, place, scan, next, htarget, hroot, hopens, h => by
    subst htarget
    rcases scanFile_succ.mp h with ⟨-, rfl⟩ | ⟨-, items, hread, hitems⟩
    · exact .refl
    · -- Only the root of the entry target can have an entry point, and this is another place.
      have hplace : (layout.setting reader place.target).target = .library ∨
          place.path.segments ≠ [] := hroot.imp_right (by simp [ModulePlace.path])
      rw [withEntryPoint_of_not_entryRoot hplace] at hitems
      exact (Continues.record hopens).trans
        (continues_scanItems (continues_scanFile place.target fuel) (hopens.walks hread) items
          (fun _ hitem => hitem) hitems)

/-! ## Targets -/

/-- The library has no entry point. -/
theorem continues_library {fuel : Nat}
    (h : layout.scanTarget reader fuel scan .library = .ok next) :
    Continues layout reader .library scan next := by
  unfold PackageLayout.scanTarget at h
  split at h
  case h_1 file hroot =>
    obtain ⟨hroot, hfile⟩ := Option.filter_eq_some_iff.mp hroot
    exact continues_scanFile .library fuel rfl (.inl rfl) (.root hroot hfile) h
  case h_2 =>
    cases h
    exact .refl

/-- The entry target gives a scan the entry point if its root file is there, has not been read
before, and has a function `main`. -/
theorem entryPoint_scanEntry_iff {fuel : Nat} {entryPoint : EntryPoint} (hfuel : 0 < fuel)
    (hscan : scan.IsRegular reader) (hnone : scan.program.entryPoint = none)
    (h : layout.scanTarget reader fuel scan .entry = .ok next) :
    next.program.entryPoint = some entryPoint ↔
      entryPoint = ⟨entryFunction, "crate"⟩ ∧ reader.isFile (layout.root.join layout.entryFile) ∧
        (∃ items, reader.read (layout.root.join layout.entryFile) = .ok items ∧
          .function entryFunction ∈ items) ∧
        ¬ scan.Reads (layout.root.join layout.entryFile) := by
  obtain ⟨fuel, rfl⟩ := Nat.exists_eq_succ_of_ne_zero (Nat.ne_of_gt hfuel)
  have hroot : layout.rootFile? .entry = some (layout.root.join layout.entryFile) := rfl
  generalize layout.root.join layout.entryFile = file at hroot ⊢
  rw [PackageLayout.scanTarget, hroot, Option.filter_some] at h
  by_cases hfile : reader.isFile file = true
  · rw [if_pos hfile] at h
    let place : ModulePlace := ⟨.entry, file, []⟩
    have hopens : layout.Opens reader place := .root hroot hfile
    have hrun : Scan.scanFile (layout.setting reader place.target) (fuel + 1) scan place.module
        place.path = .ok next := h
    rcases scanFile_succ.mp hrun with ⟨hloaded, rfl⟩ | ⟨hnew, items, hread, hitems⟩
    · -- The library has read the file, so it is passed over.
      have hreads : next.Reads file := hscan.reads_iff.mpr hloaded
      simp [hnone, hreads]
    · have hunread : ¬ scan.Reads file := mt hscan.reads_iff.mp hnew
      have hread : reader.read file = .ok items := hread
      have hkept := (continues_scanItems (continues_scanFile .entry fuel) (hopens.walks hread)
        items (fun _ hitem => hitem) hitems).entryPoint
      have htarget : (layout.setting reader place.target).target = .entry := rfl
      have hrecord : (scan.record file).program.entryPoint = none := hnone
      rw [hkept]
      refine (entryPoint_withEntryPoint_iff htarget hrecord).trans ?_
      simp [hfile, hunread, hread, and_comm]
  · rw [if_neg hfile] at h
    cases h
    simp [hnone, hfile]

end Scan

/-! ## Packages -/

namespace PackageLayout

variable {layout : PackageLayout} {store : FileStore} {result : Scan}

/-- **The entry point is found exactly in an entry file that the library has not read**: it is the
function `main` of the root module, and it is there if the root file of the entry target is a file
with such a function among its items, unless a module of the library has led to that file before. -/
theorem scanStore_entryPoint_iff (h : layout.scanStore store = .ok result) :
    ∃ library, layout.scanTarget store.reader FileStore.pathCount .empty .library = .ok library ∧
      (∀ file ∈ library.files, ∃ place : ModulePlace, place.target = .library ∧
        layout.Opens store.reader place ∧ place.module.file = file) ∧
      ∀ entryPoint, result.program.entryPoint = some entryPoint ↔
        entryPoint = ⟨"main", "crate"⟩ ∧ store.isFile (layout.root.join layout.entryFile) ∧
          (∃ items, store.readItems (layout.root.join layout.entryFile) = .ok items ∧
            .function "main" ∈ items) ∧
          ¬ library.Reads (layout.root.join layout.entryFile) := by
  obtain ⟨library, hlibrary, hentry⟩ := bind_eq_ok.mp h
  have hempty : Scan.empty.IsRegular store.reader := ⟨rfl, nofun, List.nodup_nil⟩
  obtain ⟨hcompletes, -⟩ := Scan.completes_scanTarget store.bounded_reader hempty hlibrary
  -- The library leaves no entry point, so the one that is found is that of the entry target.
  have hcontinues := Scan.continues_library hlibrary
  refine ⟨library, hlibrary, ?_, ?_⟩
  · intro file hfile
    exact (hcontinues.files file hfile).resolve_left nofun
  · intro entryPoint
    have hfuel : 0 < FileStore.pathCount := store.bounded_reader [] nofun List.nodup_nil
    exact Scan.entryPoint_scanEntry_iff hfuel hcompletes.regular hcontinues.entryPoint hentry

/-- A package whose library has the entry file among its modules. -/
def sharedMain : FileStore :=
  (FileStore.empty.insert ["src", "lib.rs"] (.file "mod main;".toUTF8)).insert
    ["src", "main.rs"] (.file "fn main() \x7b\x7d".toUTF8)

/-- The entry file is there and has a function `main`, but there is no entry point: the library has
read the file. -/
theorem scanStore_entryPoint_of_shared_main :
    ∃ result, (conventional ⟨"."⟩ none).scanStore sharedMain = .ok result ∧
      result.files = [⟨"./src/lib.rs"⟩, ⟨"./src/main.rs"⟩] ∧
      sharedMain.isFile ⟨"./src/main.rs"⟩ = true ∧
      (∃ items, sharedMain.readItems ⟨"./src/main.rs"⟩ = .ok items ∧ .function "main" ∈ items) ∧
      result.program.entryPoint = none ∧
      ∃ library, (conventional ⟨"."⟩ none).scanTarget sharedMain.reader FileStore.pathCount .empty
        .library = .ok library ∧ library.Reads ⟨"./src/main.rs"⟩ := by
  have hcomputed : ((conventional ⟨"."⟩ none).scanStore sharedMain).toOption.map
        (fun result => (result.files, result.program.entryPoint)) =
          some ([⟨"./src/lib.rs"⟩, ⟨"./src/main.rs"⟩], none) ∧
      sharedMain.isFile ⟨"./src/main.rs"⟩ = true ∧
      (sharedMain.readItems ⟨"./src/main.rs"⟩).toOption.map (fun items => items.any fun item =>
        match item with
        | .function name => decide (name = Scan.entryFunction)
        | _ => false) = some true := by
    decide +kernel
  obtain ⟨hscanned, hfile, hmain⟩ := hcomputed
  obtain ⟨result, h, hview⟩ := exists_ok_of_map_toOption hscanned
  obtain ⟨hfiles, hnone⟩ := Prod.mk.inj hview
  obtain ⟨items, hread, hany⟩ := exists_ok_of_map_toOption hmain
  have hentry : .function "main" ∈ items := Scan.any_isEntry_iff.mp hany
  obtain ⟨library, hlibrary, -, hiff⟩ := scanStore_entryPoint_iff h
  refine ⟨result, h, hfiles, hfile, ⟨items, hread, hentry⟩, hnone, library, hlibrary, ?_⟩
  -- Everything else that an entry point needs is there, so only the library can have taken it.
  by_contra hunread
  have hsome := (hiff ⟨"main", "crate"⟩).mpr ⟨rfl, hfile, ⟨items, hread, hentry⟩, hunread⟩
  rw [hnone] at hsome
  cases hsome

end PackageLayout

end RouteRegistrar
