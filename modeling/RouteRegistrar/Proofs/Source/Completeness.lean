import RouteRegistrar.Proofs.Files.Bound
import RouteRegistrar.Proofs.Source.Walk

/-!
# Scans leave no module out

A scan follows the modules of every file that it reads: at its end, each file that one of these
modules leads to has been read as well. A file is read for the first module that leads to it, so
each file has one place, and it is the modules inside that place which are followed.

The argument needs that the fuel of a scan outlasts every chain of files. The files of a chain have
different paths, so fuel for all files that a reader has is enough.
-/

namespace RouteRegistrar

/-! ## Modules inside a file -/

/-- The modules that stand in the file of a module, each with its items: the module itself, and
everything that stands in place inside it. -/
inductive ModulePlace.Within :
    ModulePlace → List SourceItem → ModulePlace → List SourceItem → Prop where
  | here {place : ModulePlace} {items : List SourceItem} : Within place items place items
  | inline {place inner : ModulePlace} {items members content : List SourceItem} {name : String}
      {path : Option String} :
      .inlineModule name path members ∈ items →
      Within (place.enter (.inline name path)) members inner content →
      Within place items inner content

/-- A walk reaches the modules inside a module that it reaches. -/
theorem PackageLayout.Walks.within {layout : PackageLayout} {reader : SourceReader}
    {place inner : ModulePlace} {items content : List SourceItem}
    (hwithin : place.Within items inner content) (hwalks : layout.Walks reader place items) :
    layout.Walks reader inner content := by
  induction hwithin with
  | here => exact hwalks
  | inline hmem _ ih => exact ih (hwalks.inline hmem)

/-! ## Files that are read -/

namespace Scan

variable {layout : PackageLayout} {reader : SourceReader} {scan next last : Scan}
  {place : ModulePlace} {items : List SourceItem}

/-- A file has been read, maybe by another path with the same components. -/
def Reads (scan : Scan) (file : FilePath) : Prop :=
  file.components ∈ scan.files.map (·.components)

/-- Every file that modules inside `place` lead to has been read. -/
structure Covers (scan : Scan) (reader : SourceReader) (place : ModulePlace)
    (items : List SourceItem) : Prop where
  reads {inner : ModulePlace} {content : List SourceItem} {name : String} {path : Option String}
    {file : FilePath} : place.Within items inner content → .fileModule name path ∈ content →
    inner.module.locate? reader.isFile name path = some file → scan.Reads file

/-- A place that has been followed: its file has been read, and so have all files that modules
inside it lead to. -/
def Follows (scan : Scan) (layout : PackageLayout) (reader : SourceReader) (place : ModulePlace) :
    Prop :=
  ∃ items, reader.read place.module.file = .ok items ∧ layout.Walks reader place items ∧
    scan.Covers reader place items

theorem Reads.mono {file : FilePath} (hfiles : scan.files <+: next.files) (h : scan.Reads file) :
    next.Reads file :=
  List.map_subset _ hfiles.subset h

theorem Covers.mono (hfiles : scan.files <+: next.files) (h : scan.Covers reader place items) :
    next.Covers reader place items :=
  ⟨fun hwithin hmem hlocate => (h.reads hwithin hmem hlocate).mono hfiles⟩

/-- Items are covered one by one. -/
theorem Covers.cons {item : SourceItem} {rest : List SourceItem}
    (hitem : scan.Covers reader place [item]) (hrest : scan.Covers reader place rest) :
    scan.Covers reader place (item :: rest) := by
  constructor
  intro inner content name path file hwithin hmem hlocate
  -- The module is the place itself, or it stands inside an item of the list.
  cases hwithin with
  | here =>
    rcases List.mem_cons.mp hmem with rfl | hmem
    · exact hitem.reads .here List.mem_cons_self hlocate
    · exact hrest.reads .here hmem hlocate
  | inline hinline hinner =>
    rcases List.mem_cons.mp hinline with rfl | hinline
    · exact hitem.reads (.inline List.mem_cons_self hinner) hmem hlocate
    · exact hrest.reads (.inline hinline hinner) hmem hlocate

/-- Without items there is nothing to cover. -/
theorem Covers.nil : scan.Covers reader place [] := by
  constructor
  intro inner content name path file hwithin hmem _
  cases hwithin with
  | here => cases hmem
  | inline hinline => cases hinline

/-- An item that is no module leads to no file. -/
theorem Covers.of_not_module {item : SourceItem}
    (hfile : ∀ name path, item ≠ .fileModule name path)
    (hinline : ∀ name path members, item ≠ .inlineModule name path members) :
    scan.Covers reader place [item] := by
  constructor
  intro inner content name path file hwithin hmem _
  -- Either way the item would have to be a module.
  cases hwithin with
  | here => exact absurd (List.mem_singleton.mp hmem).symm (hfile name path)
  | inline hmodule => exact absurd (List.mem_singleton.mp hmodule).symm (hinline _ _ _)

/-- A module that stands in place is covered if its members are. -/
theorem Covers.inlineModule {name : String} {path : Option String} {members : List SourceItem}
    (h : scan.Covers reader (place.enter (.inline name path)) members) :
    scan.Covers reader place [.inlineModule name path members] := by
  constructor
  intro inner content _ _ file hwithin hmem hlocate
  cases hwithin with
  | here => cases List.mem_singleton.mp hmem
  | inline hmodule hinner =>
    cases List.mem_singleton.mp hmodule
    exact h.reads hinner hmem hlocate

/-- A module with a file is covered if that file has been read. -/
theorem Covers.fileModule {name : String} {path : Option String}
    (h : ∀ {file}, place.module.locate? reader.isFile name path = some file → scan.Reads file) :
    scan.Covers reader place [.fileModule name path] := by
  constructor
  intro inner content _ _ file hwithin hmem hlocate
  cases hwithin with
  | here =>
    cases List.mem_singleton.mp hmem
    exact h hlocate
  | inline hmodule => cases List.mem_singleton.mp hmodule

/-! ## Growing scans -/

/-- A scan has gone on to read the files of further places, which it has followed. -/
structure Grows (layout : PackageLayout) (reader : SourceReader) (scan next : Scan)
    (places : List ModulePlace) : Prop where
  files : next.files = scan.files ++ places.map (·.module.file)
  follows : ∀ place ∈ places, next.Follows layout reader place

theorem Grows.isPrefix {places : List ModulePlace} (h : Grows layout reader scan next places) :
    scan.files <+: next.files :=
  h.files ▸ List.prefix_append ..

theorem Grows.of_files_eq (h : next.files = scan.files) : Grows layout reader scan next [] :=
  ⟨by simp [h], nofun⟩

theorem Grows.trans {places more : List ModulePlace} (h : Grows layout reader scan next places)
    (hmore : Grows layout reader next last more) :
    Grows layout reader scan last (places ++ more) := by
  constructor
  · rw [hmore.files, h.files, List.map_append, List.append_assoc]
  · intro place hmem
    rcases List.mem_append.mp hmem with hold | hnew
    · -- What has been read stays read, so the earlier places stay covered.
      obtain ⟨items, hread, hwalks, hcovers⟩ := h.follows place hold
      exact ⟨items, hread, hwalks, hcovers.mono hmore.isPrefix⟩
    · exact hmore.follows place hnew

/-- The files of a scan are files, each is listed once, and their components are kept. -/
structure IsRegular (scan : Scan) (reader : SourceReader) : Prop where
  loaded : scan.loaded = (scan.files.map (·.components)).reverse
  isFile : ∀ file ∈ scan.files, reader.isFile file = true
  nodup : (scan.files.map (·.components)).Nodup

theorem IsRegular.reads_iff (h : scan.IsRegular reader) {file : FilePath} :
    scan.Reads file ↔ file.components ∈ scan.loaded := by
  rw [h.loaded, List.mem_reverse]
  rfl

/-- A file that has not been read may be recorded. -/
theorem IsRegular.record (h : scan.IsRegular reader) {file : FilePath}
    (hfile : reader.isFile file = true) (hnew : file.components ∉ scan.loaded) :
    (scan.record file).IsRegular reader := by
  constructor
  · simp [Scan.record, h.loaded]
  · intro other hmem
    rcases List.mem_append.mp hmem with hold | hself
    · exact h.isFile other hold
    · exact List.mem_singleton.mp hself ▸ hfile
  · rw [h.loaded, List.mem_reverse] at hnew
    -- Two paths with the same components would be one file that is read twice.
    have hdisjoint : ∀ components ∈ scan.files.map (·.components), components ≠ file.components :=
      fun components hmem heq => hnew (heq ▸ hmem)
    simp only [Scan.record, List.map_append]
    rw [List.nodup_append]
    exact ⟨h.nodup, by simp, by simpa using hdisjoint⟩

theorem IsRegular.withEntryPoint (h : scan.IsRegular reader) (setting : Setting) (path : ItemPath)
    (items : List SourceItem) : (scan.withEntryPoint setting path items).IsRegular reader := by
  obtain ⟨entryPoint, heq⟩ := withEntryPoint_eq scan setting path items
  rw [heq]
  exact ⟨h.loaded, h.isFile, h.nodup⟩

/-- What a run that follows modules gives: the scan has grown by some places, and it is as regular
as before. -/
structure Completes (layout : PackageLayout) (reader : SourceReader) (scan next : Scan) : Prop where
  regular : next.IsRegular reader
  grows : ∃ places, Grows layout reader scan next places

theorem Completes.isPrefix (h : Completes layout reader scan next) : scan.files <+: next.files :=
  let ⟨_, hgrows⟩ := h.grows
  hgrows.isPrefix

theorem Completes.refl (h : scan.IsRegular reader) : Completes layout reader scan scan :=
  ⟨h, [], .of_files_eq rfl⟩

theorem Completes.trans (h : Completes layout reader scan next)
    (hlast : Completes layout reader next last) : Completes layout reader scan last := by
  obtain ⟨places, hgrows⟩ := h.grows
  obtain ⟨more, hmore⟩ := hlast.grows
  exact ⟨hlast.regular, places ++ more, hgrows.trans hmore⟩

/-- Declaring a type reads no file. -/
theorem Completes.declareBlock {setting : Setting} {scope : ModuleScope} {block : SourceBlock}
    (hscan : scan.IsRegular reader) (h : scan.declareBlock setting scope block = .ok next) :
    Completes layout reader scan next := by
  rcases declareBlock_cases h with rfl | ⟨_, _, _, _, _, _, rfl⟩
  · exact .refl hscan
  · exact ⟨⟨hscan.loaded, hscan.isFile, hscan.nodup⟩, [], .of_files_eq rfl⟩

/-! ## Following modules -/

end Scan

/-- A reader has fewer files with different components than `bound`. -/
def SourceReader.Bounded (reader : SourceReader) (bound : Nat) : Prop :=
  ∀ files : List FilePath, (∀ file ∈ files, reader.isFile file = true) →
    (files.map (·.components)).Nodup → files.length < bound

namespace Scan

variable {layout : PackageLayout} {reader : SourceReader} {scan next : Scan} {bound : Nat}

/-- Scanning the files of a target with some fuel follows all their modules, if the fuel is enough
for all files that have not been read. -/
def FileScan.Completes (layout : PackageLayout) (reader : SourceReader) (bound fuel : Nat)
    (scanFile : FileScan) (target : Target) : Prop :=
  ∀ {place : ModulePlace} {scan next : Scan}, place.target = target →
    layout.Opens reader place → scan.IsRegular reader → bound ≤ fuel + scan.files.length →
    scanFile scan place.module place.path = .ok next →
    Scan.Completes layout reader scan next ∧ next.Reads place.module.file

mutual

/-- An item is covered once it has been scanned. -/
theorem completes_scanItem {scanFile : FileScan} {fuel : Nat} {place : ModulePlace}
    {items : List SourceItem} {scan next : Scan}
    (hfiles : scanFile.Completes layout reader bound fuel place.target)
    (hwalks : layout.Walks reader place items) (hscan : scan.IsRegular reader)
    (hfuel : bound ≤ fuel + scan.files.length) (item : SourceItem) (hmem : item ∈ items)
    (h : scanItem (layout.setting reader place.target) scanFile (place.scope items) place.module
      scan item = .ok next) :
    Completes layout reader scan next ∧ next.Covers reader place [item] :=
  match item with
  | .block _ => ⟨.declareBlock hscan h, .of_not_module nofun nofun⟩
  | .inlineModule name path members => by
    -- The members are covered at the place of the module.
    rw [scanItem_inlineModule] at h
    have hinner : scanFile.Completes layout reader bound fuel
        (place.enter (.inline name path)).target := hfiles
    obtain ⟨hcompletes, hcovers⟩ :=
      completes_scanItems hinner (hwalks.inline hmem) hscan hfuel members (fun _ hitem => hitem) h
    exact ⟨hcompletes, .inlineModule hcovers⟩
  | .fileModule name path => by
    cases hfind : (place.module.candidates name path).find? (reader.isFile ·.file) with
    | none =>
      -- There is no file to cover.
      rw [scanItem_fileModule_of_missing hfind] at h
      cases h
      refine ⟨.refl hscan, .fileModule fun hlocate => ?_⟩
      simp [ModuleFile.locate?, hfind] at hlocate
    | some child =>
      rw [scanItem_fileModule_of_find hfind] at h
      obtain ⟨hchild, hopens⟩ := hwalks.opens hmem hfind
      -- The scan of the file leaves it read, whether or not it had been read before.
      obtain ⟨hcompletes, hreads⟩ := hfiles (place.target_enter _) hopens hscan hfuel h
      refine ⟨hcompletes, .fileModule ?_⟩
      intro file hlocate
      have hsame : child.file = file := by simpa [ModuleFile.locate?, hfind] using hlocate
      rw [← hchild, hsame] at hreads
      exact hreads
  | .use _ _ | .function _ | .declaration _ | .other => by
    cases h
    exact ⟨.refl hscan, .of_not_module nofun nofun⟩

/-- All items are covered once they have been scanned. -/
theorem completes_scanItems {scanFile : FileScan} {fuel : Nat} {place : ModulePlace}
    {items : List SourceItem} {scan next : Scan}
    (hfiles : scanFile.Completes layout reader bound fuel place.target)
    (hwalks : layout.Walks reader place items) (hscan : scan.IsRegular reader)
    (hfuel : bound ≤ fuel + scan.files.length) (rest : List SourceItem)
    (hmem : ∀ item ∈ rest, item ∈ items)
    (h : scanItems (layout.setting reader place.target) scanFile (place.scope items) place.module
      scan rest = .ok next) :
    Completes layout reader scan next ∧ next.Covers reader place rest :=
  match rest with
  | [] => by
    cases h
    exact ⟨.refl hscan, .nil⟩
  | item :: rest => by
    obtain ⟨between, hitem, hrest⟩ := scanItems_cons.mp h
    obtain ⟨hfirst, hcovers⟩ :=
      completes_scanItem hfiles hwalks hscan hfuel item (hmem item List.mem_cons_self) hitem
    -- More files have been read, so the fuel is still enough for the rest.
    have hlength := hfirst.isPrefix.length_le
    obtain ⟨hlast, hmore⟩ := completes_scanItems hfiles hwalks hfirst.regular (by omega) rest
      (fun i hi => hmem i (List.mem_cons_of_mem _ hi)) hrest
    exact ⟨hfirst.trans hlast, (hcovers.mono hlast.isPrefix).cons hmore⟩

end

/-- All modules of a file are followed, however deep files nest. -/
theorem completes_scanFile (hbound : reader.Bounded bound) (target : Target) :
    ∀ fuel, FileScan.Completes layout reader bound fuel
      (Scan.scanFile (layout.setting reader target) fuel) target
  | 0, place, scan, next, _, _, hscan, hfuel, _ => by
    -- The fuel is spent only if more files have been read than there are.
    have hlength := hbound scan.files hscan.isFile hscan.nodup
    omega
  | fuel + 1, place, scan, next, htarget, hopens, hscan, hfuel, h => by
    subst htarget
    -- A file that has been read is left alone; a new one is recorded and its items are scanned.
    rcases scanFile_succ.mp h with ⟨hloaded, rfl⟩ | ⟨hnew, items, hread, hitems⟩
    · exact ⟨.refl hscan, hscan.reads_iff.mpr hloaded⟩
    · have hwalks := hopens.walks hread
      have hstart : ((scan.record place.module.file).withEntryPoint
          (layout.setting reader place.target) place.path items).files =
          scan.files ++ [place.module.file] := by
        rw [files_withEntryPoint]
        rfl
      have hregular := (hscan.record hopens.isFile hnew).withEntryPoint
        (layout.setting reader place.target) place.path items
      obtain ⟨⟨hnext, places, hgrows⟩, hcovers⟩ :=
        completes_scanItems (completes_scanFile hbound place.target fuel) hwalks hregular
          (by rw [hstart, List.length_append, List.length_singleton]; omega) items
          (fun _ hitem => hitem) hitems
      have hfiles := hgrows.files
      rw [hstart, List.append_assoc] at hfiles
      -- The file comes first, then the files that its modules lead to.
      refine ⟨⟨hnext, place :: places, hfiles, ?_⟩, ?_⟩
      · intro other hmem
        rcases List.mem_cons.mp hmem with rfl | hmem
        · exact ⟨items, hread, hwalks, hcovers⟩
        · exact hgrows.follows other hmem
      · simp [Reads, hfiles]

/-- All modules of a target are followed, and its root file is read if there is one. -/
theorem completes_scanTarget (hbound : reader.Bounded bound) {target : Target}
    (hscan : scan.IsRegular reader) (h : layout.scanTarget reader bound scan target = .ok next) :
    Completes layout reader scan next ∧ ∀ file, layout.rootFile? target = some file →
      reader.isFile file = true → next.Reads file := by
  unfold PackageLayout.scanTarget at h
  -- A root file that does not exist is skipped, and nothing is read for it.
  split at h
  case h_1 file hroot =>
    obtain ⟨hroot, hfile⟩ := Option.filter_eq_some_iff.mp hroot
    obtain ⟨hcompletes, hreads⟩ := completes_scanFile hbound target bound rfl
      (.root hroot hfile) hscan (Nat.le_add_right ..) h
    refine ⟨hcompletes, fun other hother _ => ?_⟩
    cases hroot.symm.trans hother
    exact hreads
  case h_2 hnone =>
    cases h
    refine ⟨.refl hscan, fun file hroot hfile => ?_⟩
    rw [hroot, Option.filter_some, if_pos hfile] at hnone
    cases hnone

end Scan

/-! ## Packages -/

/-- A store has fewer files than fuel. -/
theorem FileStore.bounded_reader (store : FileStore) :
    store.reader.Bounded FileStore.pathCount :=
  fun _ hfiles hnodup => length_lt_pathCount hfiles hnodup

/-- **A scan is complete**: every file that it reads is read once and is the file of a place which
it has followed, and it reads the root file of each target that has one. -/
theorem PackageLayout.scan_complete {layout : PackageLayout} {reader : SourceReader} {bound : Nat}
    {result : Scan} (hbound : reader.Bounded bound) (h : layout.scan reader bound = .ok result) :
    ∃ places : List ModulePlace, result.files = places.map (·.module.file) ∧
      (result.files.map (·.components)).Nodup ∧
      (∀ place ∈ places, result.Follows layout reader place) ∧
      ∀ target file, layout.rootFile? target = some file → reader.isFile file = true →
        result.Reads file := by
  obtain ⟨library, hlibrary, hentry⟩ := bind_eq_ok.mp h
  -- The library is scanned first, and the entry target goes on from there.
  have hempty : Scan.empty.IsRegular reader := ⟨rfl, nofun, List.nodup_nil⟩
  obtain ⟨hfirst, hlibraryRoot⟩ := Scan.completes_scanTarget hbound hempty hlibrary
  obtain ⟨hsecond, hentryRoot⟩ := Scan.completes_scanTarget hbound hfirst.regular hentry
  obtain ⟨hregular, places, hgrows⟩ := hfirst.trans hsecond
  refine ⟨places, hgrows.files, hregular.nodup, hgrows.follows, ?_⟩
  intro target file hroot hfile
  -- Both roots have been read, and what the library has read stays read.
  cases target with
  | library => exact (hlibraryRoot file hroot hfile).mono hsecond.isPrefix
  | entry => exact hentryRoot file hroot hfile

end RouteRegistrar
