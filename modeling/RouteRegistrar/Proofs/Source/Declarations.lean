import Mathlib.Data.List.Forall2
import RouteRegistrar.Proofs.Files.Spellings
import RouteRegistrar.Proofs.Source.Completeness

/-!
# How often a block is declared

Each file that a scan lists has been read once for its place in the list, and then all its blocks
have been declared. So a block is declared once for each time that its file is listed.

A file is listed once for each way to spell its components. A guard that compares these would keep
a file from being read twice, if no file had two spellings. But a path that goes up through two dots
is another spelling, and a block behind it is declared again.
-/

namespace RouteRegistrar

/-! ## Outlines -/

/-- What a declaration has from its block alone: its name, its markers, and its methods without
their parameters, whose types depend on the module. -/
abbrev Outline := String × List Marker × List Method

/-- What a declaration has from its block alone. -/
def Declaration.outline (declaration : Declaration) : Outline :=
  (declaration.name, declaration.markers,
    declaration.methods.map fun method => { method with parameters := [] })

/-- The outline of what a block declares, if it declares something. -/
def SourceBlock.outline? (block : SourceBlock) : Option Outline :=
  (block.typeNames.bind fun names => names.getLast?).map fun name =>
    (name, block.markers, block.methods.map fun method =>
      ⟨method.name, method.markers, [], method.isAsync, method.hasReceiver⟩)

namespace SourceItem

mutual

/-- The outlines of what an item declares, with the modules that stand in place. -/
def outlines : SourceItem → List Outline
  | .block content => content.outline?.toList
  | .inlineModule _ _ items => outlinesIn items
  | _ => []

/-- The outlines of what items declare, with the modules that stand in place. -/
def outlinesIn : List SourceItem → List Outline
  | [] => []
  | item :: rest => outlines item ++ outlinesIn rest

end

end SourceItem

namespace Scan

variable {reader : SourceReader} {scan next last : Scan} {first second : List Outline}

/-- The outlines of what has been declared so far. -/
def outlines (scan : Scan) : List Outline := scan.program.types.map (·.outline)

/-- A scan has gone on to declare some blocks, and to read files and declare their blocks. The order
of the declarations is left open: a file is read in between. -/
def Registers (reader : SourceReader) (scan next : Scan) (declared : List Outline) : Prop :=
  ∃ (files : List FilePath) (contents : List (List SourceItem)), next.files = scan.files ++ files ∧
    List.Forall₂ (fun file items => reader.read file = .ok items) files contents ∧
    next.outlines.Perm (scan.outlines ++ declared ++ contents.flatMap SourceItem.outlinesIn)

namespace Registers

/-- Doing nothing declares nothing. -/
theorem refl (reader : SourceReader) (scan : Scan) : Registers reader scan scan [] :=
  ⟨[], [], by simp, .nil, by simp⟩

theorem trans (h : Registers reader scan next first) (hlast : Registers reader next last second) :
    Registers reader scan last (first ++ second) := by
  obtain ⟨files, contents, hfiles, hread, hperm⟩ := h
  obtain ⟨more, moreContents, hmore, hreadMore, hpermMore⟩ := hlast
  refine ⟨files ++ more, contents ++ moreContents, ?_, List.rel_append hread hreadMore, ?_⟩
  · rw [hmore, hfiles, List.append_assoc]
  · -- Both runs may put outlines in another order, so they are counted.
    rw [List.perm_iff_count] at hperm hpermMore ⊢
    intro outline
    have hnext := hperm outline
    have hlast := hpermMore outline
    simp only [List.flatMap_append, List.count_append] at hnext hlast ⊢
    omega

/-- A file that is read is listed, and its own blocks count as those of the file. -/
theorem read {file : FilePath} {items : List SourceItem} {start : Scan}
    (hread : reader.read file = .ok items) (hfiles : start.files = scan.files ++ [file])
    (houtlines : start.outlines = scan.outlines)
    (h : Registers reader start next (SourceItem.outlinesIn items)) :
    Registers reader scan next [] := by
  obtain ⟨files, contents, hnext, hcontents, hperm⟩ := h
  -- The outlines of the file are those that its items have registered.
  refine ⟨file :: files, items :: contents, ?_, .cons hread hcontents, ?_⟩
  · rw [hnext, hfiles, List.append_assoc]
    rfl
  · rw [houtlines, List.append_assoc] at hperm
    rwa [List.append_nil, List.flatMap_cons]

end Registers

/-! ## Scanning -/

/-- Qualifying a method changes the types of its parameters only. -/
theorem outline_of_mapM_method {qualifier : Qualifier} {found : List SourceMethod} :
    ∀ {methods : List Method}, found.mapM (method qualifier) = .ok methods →
      (methods.map fun method => { method with parameters := [] }) = found.map fun method =>
        (⟨method.name, method.markers, [], method.isAsync, method.hasReceiver⟩ : Method) := by
  induction found with
  | nil =>
    intro methods h
    cases h
    rfl
  | cons first rest ih =>
    intro methods h
    obtain ⟨head, tail, hhead, htail, rfl⟩ := mapM_cons_eq_ok.mp h
    obtain ⟨parameters, -, hhead⟩ := bind_eq_ok.mp hhead
    -- Qualifying a method changes its parameters only, which an outline leaves out.
    cases hhead
    rw [List.map_cons, List.map_cons, ih htail]

/-- A declared type has the outline of its block. -/
theorem registers_declare {setting : Setting} {path : ItemPath} {name : String}
    {markers : List Marker} {methods : List Method} :
    Registers reader scan (scan.declare setting path name markers methods)
      [(name, markers, methods.map fun method => { method with parameters := [] })] := by
  refine ⟨[], [], (List.append_nil _).symm, .nil, ?_⟩
  simp [outlines, declare, Program.declare, Declaration.outline]

/-- A block declares its outline. -/
theorem registers_declareBlock {setting : Setting} {scope : ModuleScope} {block : SourceBlock}
    (h : scan.declareBlock setting scope block = .ok next) :
    Registers reader scan next block.outline?.toList := by
  rw [SourceBlock.outline?]
  unfold declareBlock at h
  split at h
  case h_1 hnone =>
    -- The type has no name, so the block declares nothing.
    have hname : (block.typeNames.bind fun names => names.getLast?) = none := by
      cases htype : block.typeNames with
      | none => rfl
      | some names => simpa [htype] using hnone
    cases h
    rw [hname]
    exact .refl reader scan
  case h_2 names name hsome =>
    obtain ⟨written, hwritten, hlast⟩ := Option.bind_eq_some_iff.mp hsome
    obtain ⟨last, hlast, hpair⟩ := Option.map_eq_some_iff.mp hlast
    cases hpair
    obtain ⟨methods, hmethods, h⟩ := bind_eq_ok.mp h
    cases h
    have hname : (block.typeNames.bind fun names => names.getLast?) = some name := by
      rw [hwritten]
      exact hlast
    rw [hname, Option.map_some, ← outline_of_mapM_method hmethods]
    exact registers_declare

section Items

variable {setting : Setting} {scanFile : FileScan}

/-- Scanning files registers them, and declares nothing else. -/
def FileScan.Registers (reader : SourceReader) (scanFile : FileScan) : Prop :=
  ∀ scan module path next, scanFile scan module path = .ok next →
    Scan.Registers reader scan next []

mutual

/-- An item declares its blocks if files declare theirs. -/
theorem registers_scanItem (hfiles : FileScan.Registers setting.reader scanFile)
    (scope : ModuleScope) (module : ModuleFile) (scan next : Scan) (item : SourceItem)
    (h : scanItem setting scanFile scope module scan item = .ok next) :
    Scan.Registers setting.reader scan next item.outlines :=
  match item with
  | .block _ => registers_declareBlock h
  | .inlineModule _ _ items => registers_scanItems hfiles _ _ scan next items h
  | .fileModule name path => by
    rw [scanItem] at h
    split at h
    case h_1 child _ => exact hfiles scan child _ next h
    case h_2 =>
      cases h
      exact .refl _ scan
  | .use _ _ | .function _ | .declaration _ | .other => by
    cases h
    exact .refl _ scan

/-- Items declare their blocks in turn if files declare theirs. -/
theorem registers_scanItems (hfiles : FileScan.Registers setting.reader scanFile)
    (scope : ModuleScope) (module : ModuleFile) (scan next : Scan) (items : List SourceItem)
    (h : scanItems setting scanFile scope module scan items = .ok next) :
    Scan.Registers setting.reader scan next (SourceItem.outlinesIn items) :=
  match items with
  | [] => by
    cases h
    exact .refl _ scan
  | item :: rest => by
    obtain ⟨between, hitem, hrest⟩ := scanItems_cons.mp h
    exact (registers_scanItem hfiles scope module scan between item hitem).trans
      (registers_scanItems hfiles scope module between next rest hrest)

end

/-- Files declare their blocks, however deep they nest. -/
theorem registers_scanFile (setting : Setting) :
    ∀ fuel, FileScan.Registers setting.reader (Scan.scanFile setting fuel)
  -- Without fuel nothing is read; this is no failure, so nothing is registered either.
  | 0, scan, _, _, next, h => by
    cases h
    exact .refl _ scan
  | fuel + 1, scan, module, path, next, h => by
    rw [Scan.scanFile] at h
    split at h
    case isTrue =>
      cases h
      exact .refl _ scan
    case isFalse =>
      obtain ⟨items, hread, hitems⟩ := bind_eq_ok.mp h
      obtain ⟨entryPoint, hentry⟩ :=
        withEntryPoint_eq (scan.record module.file) setting path items
      refine .read hread ?_ ?_
        (registers_scanItems (registers_scanFile setting fuel) _ _ _ next items hitems)
      · rw [files_withEntryPoint]
        rfl
      · rw [hentry]
        rfl

end Items

end Scan

/-! ## Packages -/

namespace PackageLayout

variable {layout : PackageLayout} {reader : SourceReader} {scan next : Scan}

/-- A target declares the blocks of its files. -/
theorem registers_scanTarget {fuel : Nat} {target : Target}
    (h : layout.scanTarget reader fuel scan target = .ok next) :
    Scan.Registers reader scan next [] := by
  unfold scanTarget at h
  split at h
  case h_1 file _ =>
    exact Scan.registers_scanFile (layout.setting reader target) fuel scan _ _ next h
  case h_2 =>
    cases h
    exact .refl _ scan

/-- A package declares the blocks of its files. -/
theorem registers_scan {fuel : Nat} {result : Scan} (h : layout.scan reader fuel = .ok result) :
    Scan.Registers reader .empty result [] := by
  obtain ⟨library, hlibrary, hentry⟩ := bind_eq_ok.mp h
  exact (registers_scanTarget hlibrary).trans (registers_scanTarget hentry)

variable {store : FileStore} {result : Scan}

/-- **Files are registered once for each spelling.** The root files are listed, and with each file
those that the modules inside it lead to. No two listed files have the same components, so if two of
them are one file, their paths differ by dots. Each of them has been read for its place in the list,
and the declared types are those of the blocks of all these files. -/
theorem scanStore_registers_spellings (h : layout.scanStore store = .ok result) :
    (∃ places : List ModulePlace, result.files = places.map (·.module.file) ∧
        (∀ place ∈ places, result.Follows layout store.reader place) ∧
        ∀ target file, layout.rootFile? target = some file → store.isFile file = true →
          result.Reads file) ∧
      (result.files.map (·.components)).Nodup ∧
      result.files.Pairwise (fun file other => ∀ location, store.locate file = .ok location →
        store.locate other = .ok location → file.DiffersByDots other) ∧
      ∃ contents : List (List SourceItem),
        List.Forall₂ (fun file items => store.readItems file = .ok items) result.files contents ∧
        (result.program.types.map (·.outline)).Perm (contents.flatMap SourceItem.outlinesIn) := by
  obtain ⟨places, hplaces, hnodup, hfollows, hroots⟩ := scan_complete store.bounded_reader h
  obtain ⟨files, contents, hfiles, hread, hperm⟩ := registers_scan h
  refine ⟨⟨places, hplaces, hfollows, hroots⟩, hnodup, ?_, contents, ?_, hperm⟩
  · -- Only the dots that components keep can tell two spellings of one place apart.
    refine (List.pairwise_map.mp hnodup).imp fun hne location hfile hother => ?_
    exact (FilePath.components_eq_or_differsByDots hfile hother).resolve_left hne
  · have hsame : result.files = files := hfiles
    rwa [hsame]

/-- A package with a file that two modules lead to, one of them by way of another directory. -/
def detouredModule : FileStore :=
  let main := "mod api; #[path = \"x/../api.rs\"] mod again; fn main() \x7b\x7d"
  let api := "pub struct Api; impl Api \x7b fn list() \x7b\x7d \x7d"
  ((FileStore.empty.insert ["src", "main.rs"] (.file main.toUTF8)).insert
    ["src", "api.rs"] (.file api.toUTF8)).insert ["src", "x"] .directory

/-- The file is listed twice, and its block is declared twice. -/
theorem scanStore_registers_detoured_module :
    ∃ result, (conventional ⟨"."⟩ none).scanStore detouredModule = .ok result ∧
      result.files = [⟨"./src/main.rs"⟩, ⟨"./src/api.rs"⟩, ⟨"./src/x/../api.rs"⟩] ∧
      detouredModule.locate ⟨"./src/api.rs"⟩ = .ok ["src", "api.rs"] ∧
      detouredModule.locate ⟨"./src/x/../api.rs"⟩ = .ok ["src", "api.rs"] ∧
      result.program.types.map (·.name) = ["Api", "Api"] ∧
      (FilePath.mk "./src/api.rs").DiffersByDots ⟨"./src/x/../api.rs"⟩ ∧
      ∃ contents : List (List SourceItem), contents.length = 3 ∧
        (result.program.types.map (·.outline)).Perm (contents.flatMap SourceItem.outlinesIn) := by
  -- The scan is evaluated; which spellings it takes for one file follows by the theorem.
  have hcomputed : ((conventional ⟨"."⟩ none).scanStore detouredModule).toOption.map
        (fun result => (result.files, result.program.types.map (·.name))) =
          some ([⟨"./src/main.rs"⟩, ⟨"./src/api.rs"⟩, ⟨"./src/x/../api.rs"⟩], ["Api", "Api"]) ∧
      (detouredModule.locate ⟨"./src/api.rs"⟩).toOption = some ["src", "api.rs"] ∧
      (detouredModule.locate ⟨"./src/x/../api.rs"⟩).toOption = some ["src", "api.rs"] := by
    decide +kernel
  obtain ⟨hscanned, hplace, hdetour⟩ := hcomputed
  obtain ⟨result, h, hview⟩ := exists_ok_of_map_toOption hscanned
  obtain ⟨hfiles, htypes⟩ := Prod.mk.inj hview
  have hplace := eq_ok_of_toOption hplace
  have hdetour := eq_ok_of_toOption hdetour
  obtain ⟨-, -, hpairs, contents, hread, hperm⟩ := scanStore_registers_spellings h
  rw [hfiles] at hpairs hread
  have hpair := (List.pairwise_cons.mp (List.pairwise_cons.mp hpairs).2).1 ⟨"./src/x/../api.rs"⟩
    (by simp)
  exact ⟨result, h, hfiles, hplace, hdetour, htypes, hpair _ hplace hdetour, contents,
    hread.length_eq.symm, hperm⟩

end PackageLayout

end RouteRegistrar
