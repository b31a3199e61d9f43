import RouteRegistrar.Proofs.Files.Kinds
import RouteRegistrar.Proofs.Settings.KeyPaths

/-!
# Variables that settings depend on

A build watches six variables by name, each in capital letters. Variables are read without regard
to case, and each name is a key path. This module says which variables have no effect on settings:
those whose names begin otherwise, and those whose path begins with another key, unless it counts
from the end of a list. Settings depend on watched variables only, exactly if all other variables of
an environment are such ones.
-/

namespace RouteRegistrar

open GatheredSettings

/-! ## Names of variables -/

namespace SettingsKey

theorem mem_all (key : SettingsKey) : key ∈ all := by
  cases key <;> decide

theorem text_injective : Function.Injective text := by
  have hdistinct : ∀ key ∈ all, ∀ other ∈ all, key.text = other.text → key = other := by
    decide
  intro key other h
  exact hdistinct key key.mem_all other other.mem_all h

theorem ofName_text (key : SettingsKey) : KeyPath.ofName key.text = ⟨key.text, []⟩ := by
  cases key <;> decide +kernel

/-- The watched variable of a setting sets it. -/
theorem nameOfVariable?_environmentVariable (key : SettingsKey) :
    nameOfVariable? key.environmentVariable = some key.text := by
  cases key <;> decide +kernel

end SettingsKey

namespace Settings

theorem mem_environmentVariables {name : String} :
    name ∈ environmentVariables ↔ ∃ key : SettingsKey, name = key.environmentVariable := by
  rw [environmentVariables, List.mem_map]
  constructor
  · rintro ⟨key, -, rfl⟩
    exact ⟨key, rfl⟩
  · rintro ⟨key, rfl⟩
    exact ⟨key, key.mem_all, rfl⟩

/-- A name that sets no setting, and can be set whatever there is. -/
def IsQuiet (name : String) : Prop :=
  (∀ key : SettingsKey, key.text ≠ (KeyPath.ofName name).first) ∧
    ∀ step ∈ (KeyPath.ofName name).steps, ¬ step.IsBackward

theorem IsQuiet.ne_text {name : String} (h : IsQuiet name) (key : SettingsKey) :
    key.text ≠ name := by
  rintro rfl
  have hfirst := h.1 key
  rw [key.ofName_text] at hfirst
  exact hfirst rfl

/-- A variable that has no effect on settings. -/
def IsIdle (name : String) : Prop := ∀ found, nameOfVariable? name = some found → IsQuiet found

/-- Among watched and idle variables, a setting is set by one only. -/
theorem eq_environmentVariable {name : String}
    (h : name ∈ environmentVariables ∨ IsIdle name) {key : SettingsKey}
    (hname : nameOfVariable? name = some key.text) : name = key.environmentVariable := by
  rcases h with hwatched | hidle
  · obtain ⟨other, rfl⟩ := mem_environmentVariables.mp hwatched
    rw [other.nameOfVariable?_environmentVariable] at hname
    rw [SettingsKey.text_injective (Option.some.inj hname)]
  · exact absurd rfl ((hidle _ hname).ne_text key)

end Settings

/-! ## What an environment sets -/

namespace GatheredSettings

variable {settings next : GatheredSettings} {origin : String}

/-- An entry that sets a setting by its key, or none at all. -/
def IsTame (entry : String × SettingsValue) : Prop :=
  (∃ text, entry.2 = .text text) ∧
    ((∃ key : SettingsKey, entry.1 = key.text) ∨ Settings.IsQuiet entry.1)

/-- One entry sets the setting of its name. -/
theorem assign_of_isTame {entry : String × SettingsValue} (h : IsTame entry) :
    ∃ next, settings.assign entry.1 entry.2 (some origin) = .ok next ∧ ∀ key : SettingsKey,
      next.get? key.text =
        if key.text = entry.1 then some ⟨entry.2, some origin⟩ else settings.get? key.text := by
  obtain ⟨name, value⟩ := entry
  obtain ⟨⟨text, rfl⟩, ⟨own, rfl⟩ | hquiet⟩ := h
  · -- A variable of a setting sets its key.
    refine ⟨_, assign_of_plain (congrArg KeyPath.steps own.ofName_text), ?_⟩
    intro key
    rw [get?_set, own.ofName_text]
  · -- Any other variable is put under another key.
    obtain ⟨found, hassign⟩ := assign_of_forward hquiet.2
    refine ⟨_, hassign, ?_⟩
    intro key
    rw [get?_set, if_neg (hquiet.1 key), if_neg (hquiet.ne_text key)]

theorem assignAll_of_isTame {entries : SettingsTable} (h : ∀ entry ∈ entries, IsTame entry) :
    ∃ next, assignAll settings entries origin = .ok next ∧
      ∀ (key : SettingsKey) (expected : Option GatheredValue),
        (∀ value, (key.text, value) ∈ entries → some ⟨value, some origin⟩ = expected) →
        (settings.get? key.text = expected ∨ key.text ∈ entries.map (·.1)) →
        next.get? key.text = expected := by
  -- A setting is as expected from the start, or some entry makes it so, and no later one differs.
  induction entries generalizing settings with
  | nil =>
    refine ⟨settings, rfl, ?_⟩
    rintro key expected - (hstart | hmem)
    · exact hstart
    · cases hmem
  | cons entry rest ih =>
    obtain ⟨between, hbetween, hget⟩ := assign_of_isTame (h entry List.mem_cons_self)
    have htame : ∀ entry ∈ rest, IsTame entry := fun entry hentry =>
      h entry (List.mem_cons_of_mem _ hentry)
    obtain ⟨next, hnext, hrest⟩ := @ih between htame
    refine ⟨next, ?_, ?_⟩
    · rw [assignAll, List.foldlM_cons]
      exact bind_eq_ok.mpr ⟨between, hbetween, hnext⟩
    · intro key expected hentries hstart
      apply hrest key expected
      · intro value hvalue
        exact hentries value (List.mem_cons_of_mem _ hvalue)
      · rw [hget key]
        split
        case isTrue hname =>
          exact .inl (hentries entry.2 (by rw [hname]; exact List.mem_cons_self))
        case isFalse hname =>
          exact hstart.imp_right fun hmem => (List.mem_cons.mp hmem).resolve_left hname

variable {environment : Environment}

/-- All variables of an environment are watched or idle. -/
def IsWatched (environment : Environment) : Prop :=
  ∀ entry ∈ environment, entry.1 ∈ Settings.environmentVariables ∨ Settings.IsIdle entry.1

theorem mem_environmentEntries {name : String} {value : SettingsValue}
    (h : (name, value) ∈ environmentEntries environment) : ∃ full text,
      (full, text) ∈ environment ∧ nameOfVariable? full = some name ∧ value = .text text := by
  have hmem := SettingsTable.mem_of_mem_ofEntries h
  obtain ⟨⟨full, text⟩, hfull, hentry⟩ := List.mem_filterMap.mp hmem
  obtain ⟨found, hname, heq⟩ := Option.map_eq_some_iff.mp hentry
  cases heq
  exact ⟨full, text, hfull, hname, rfl⟩

theorem isTame_of_mem_environmentEntries (h : IsWatched environment)
    {entry : String × SettingsValue} (hentry : entry ∈ environmentEntries environment) :
    IsTame entry := by
  obtain ⟨full, text, hfull, hname, hvalue⟩ := mem_environmentEntries hentry
  refine ⟨⟨text, hvalue⟩, ?_⟩
  -- A watched variable has the key of a setting; any other one is quiet.
  rcases h _ hfull with hwatched | hidle
  · obtain ⟨key, rfl⟩ := Settings.mem_environmentVariables.mp hwatched
    rw [key.nameOfVariable?_environmentVariable] at hname
    exact .inl ⟨key, (Option.some.inj hname).symm⟩
  · exact .inr (hidle _ hname)

/-- What a setting is in an environment: the value of its watched variable, if there is one. -/
def expected (settings : GatheredSettings) (environment : Environment) (key : SettingsKey) :
    Option GatheredValue :=
  match environment.lookup key.environmentVariable with
  | some text => some ⟨.text text, some environmentOrigin⟩
  | none => settings.get? key.text

/-- **Watched variables set their settings, and idle ones set none.** -/
theorem get?_of_isWatched (h : IsWatched environment)
    (hnodup : (environment.map (·.1)).Nodup) : ∃ next,
      assignAll settings (environmentEntries environment) environmentOrigin = .ok next ∧
        ∀ key : SettingsKey, next.get? key.text = expected settings environment key := by
  obtain ⟨next, hnext, hget⟩ : ∃ next,
      assignAll settings (environmentEntries environment) environmentOrigin = .ok next ∧ _ :=
    assignAll_of_isTame fun entry hentry => isTame_of_mem_environmentEntries h hentry
  refine ⟨next, hnext, ?_⟩
  intro key
  apply hget key
  · intro value hvalue
    obtain ⟨full, text, hfull, hname, rfl⟩ := mem_environmentEntries hvalue
    -- Only the variable of the setting in capitals gives its key.
    have hvariable : full = key.environmentVariable :=
      Settings.eq_environmentVariable (h _ hfull) hname
    rw [hvariable] at hfull
    rw [expected, (mem_iff_lookup_eq_some hnodup).mp hfull]
  · rw [expected]
    split
    case h_1 text htext =>
      right
      rw [environmentEntries, SettingsTable.mem_keys_ofEntries]
      -- The variable is set, so its key is among the entries.
      have hmem := (mem_iff_lookup_eq_some hnodup).mpr htext
      apply List.mem_map_of_mem (a := (key.text, SettingsValue.text text))
      apply List.mem_filterMap.mpr
      refine ⟨_, hmem, ?_⟩
      simp only [key.nameOfVariable?_environmentVariable, Option.map_some]
    case h_2 => exact .inl rfl

/-! ## Settings -/

theorem toSettings_congr {other : GatheredSettings}
    (h : ∀ key : SettingsKey, settings.get? key.text = other.get? key.text) :
    settings.toSettings = other.toSettings := by
  simp only [toSettings, textOf, booleanOf, h]

theorem toSettings_eq_ok {result : Settings} (h : settings.toSettings = .ok result) :
    settings.textOf .entryFile Settings.default.entryFile.text = .ok result.entryFile.text ∧
    settings.textOf .libraryFile Settings.default.libraryFile.text = .ok result.libraryFile.text ∧
    settings.textOf .attributesArtifact Settings.default.attributesArtifact =
      .ok result.attributesArtifact ∧
    settings.textOf .registrationsArtifact Settings.default.registrationsArtifact =
      .ok result.registrationsArtifact ∧
    settings.textOf .registrationFunction Settings.default.registrationFunction =
      .ok result.registrationFunction ∧
    settings.booleanOf .showsLog Settings.default.showsLog = .ok result.showsLog := by
  -- The settings are read one by one, and the first one that is wrong ends this.
  obtain ⟨entryFile, hentry, h⟩ := bind_eq_ok.mp h
  obtain ⟨libraryFile, hlibrary, h⟩ := bind_eq_ok.mp h
  obtain ⟨attributes, hattributes, h⟩ := bind_eq_ok.mp h
  obtain ⟨registrations, hregistrations, h⟩ := bind_eq_ok.mp h
  obtain ⟨function, hfunction, h⟩ := bind_eq_ok.mp h
  obtain ⟨showsLog, hlog, h⟩ := bind_eq_ok.mp h
  cases h
  exact ⟨hentry, hlibrary, hattributes, hregistrations, hfunction, hlog⟩

/-- A value that is the default of no setting. -/
def IsForeign (found : GatheredValue) : Prop := found.value = .text "0" ∨ found.value.IsComposite

theorem toText_ne_of_isForeign {found : GatheredValue} (h : IsForeign found) {key : SettingsKey}
    {default result : String} (hresult : result ≠ "0") :
    found.toText key default ≠ .ok result := by
  obtain ⟨value, origin⟩ := found
  rcases h with rfl | hcomposite
  · intro heq
    exact hresult (Except.ok.inj heq).symm
  · cases value with
    | list values => exact nofun
    | table entries => exact nofun
    | _ => cases hcomposite

theorem toBoolean_ne_of_isForeign {found : GatheredValue} (h : IsForeign found)
    {key : SettingsKey} {default : Bool} : found.toBoolean key default ≠ .ok true := by
  obtain ⟨value, origin⟩ := found
  rcases h with rfl | hcomposite
  · -- The text of the value is a word for false; lists and tables are no booleans.
    have hfalse : GatheredValue.booleanOfWord? (String.ofList (Text.lower "0".toList)) =
        some false := by
      decide
    intro heq
    simp only [GatheredValue.toBoolean, hfalse] at heq
    cases heq
  · cases value with
    | list values => exact nofun
    | table entries => exact nofun
    | _ => cases hcomposite

/-- Such a value makes a difference, whichever setting it is for. -/
theorem toSettings_ne_of_isForeign (key : SettingsKey) {found : GatheredValue}
    (h : IsForeign found) : toSettings [(key.text, found)] ≠ .ok .default := by
  intro heq
  obtain ⟨hentry, hlibrary, hattributes, hregistrations, hfunction, hlog⟩ := toSettings_eq_ok heq
  -- Whichever key it is for, a foreign value is read as something else than the default.
  cases key
  case entryFile => exact toText_ne_of_isForeign h (by decide) hentry
  case libraryFile => exact toText_ne_of_isForeign h (by decide) hlibrary
  case attributesArtifact => exact toText_ne_of_isForeign h (by decide) hattributes
  case registrationsArtifact => exact toText_ne_of_isForeign h (by decide) hregistrations
  case registrationFunction => exact toText_ne_of_isForeign h (by decide) hfunction
  case showsLog => exact toBoolean_ne_of_isForeign h hlog

end GatheredSettings

/-! ## What settings depend on -/

namespace Settings

open GatheredSettings

theorem isFile_empty (path : FilePath) : FileStore.empty.isFile path = false := by
  by_contra hfile
  obtain ⟨location, content, -, hlookup, -⟩ :=
    FileStore.locate_of_isFile (Bool.not_eq_false .. ▸ hfile)
  rw [FileStore.lookup_of_not_isFixed (FileStore.isFixed_of_lookup_file hlookup)] at hlookup
  cases hlookup

theorem fileSource?_empty (order : GatheringOrder) (root : FilePath) :
    fileSource? order .empty root = .ok none := by
  have hnone : file? order .empty root = none := by
    rw [file?, List.find?_eq_none]
    rintro ⟨path, format⟩ -
    simp only [isFile_empty, Bool.false_eq_true, not_false_eq_true]
  -- The equation of `fileSource?` would unfold the readers of all formats.
  delta fileSource?
  rw [hnone]

/-- Settings are those of the file, if there is one, and then those of the environment. -/
theorem read_eq (store : FileStore) (root : FilePath) (environment : Environment) :
    read store root environment = fileSource? .written store root >>= fun file =>
      file.toList.foldlM (gather .written) [] >>= fun base =>
        assignAll base (environmentEntries environment) environmentOrigin >>= toSettings := by
  rw [read, readIn, ofPackage, sources]
  cases fileSource? .written store root with
  | error failure => rfl
  | ok file =>
    show (file.toList ++ [environmentSource environment]).foldlM (gather .written) [] >>=
      toSettings = _
    -- The environment is the last source, after the file if there is one.
    rw [List.foldlM_append]
    show (file.toList.foldlM (gather .written) [] >>= fun base =>
      gather .written base (environmentSource environment) >>= pure) >>= toSettings = _
    simp only [bind_pure, bind_assoc]
    rfl

/-- Where there is no file, the settings are those of the environment. -/
theorem read_empty (root : FilePath) (environment : Environment) : read .empty root environment =
    assignAll [] (environmentEntries environment) environmentOrigin >>= toSettings := by
  rw [read_eq, fileSource?_empty]
  rfl

/-- Where nothing else is set, one variable sets what its path leads to. -/
theorem read_singleton {name found : String} (h : nameOfVariable? name = some found)
    (root : FilePath) (text : String) : read .empty root [(name, text)] =
      assign [] found (.text text) (some environmentOrigin) >>= toSettings := by
  have hentries : environmentEntries [(name, text)] = [(found, .text text)] := by
    simp only [environmentEntries, List.filterMap_cons, List.filterMap_nil, h, Option.map_some]
    rfl
  rw [read_empty, hentries]
  show (assign [] found (.text text) (some environmentOrigin) >>= pure) >>= toSettings = _
  rw [bind_pure]

/-- A variable that is not idle makes a difference where nothing else is set. -/
theorem read_singleton_ne {name : String} (h : ¬ IsIdle name) (root : FilePath) :
    read .empty root [(name, "0")] ≠ read .empty root [] := by
  have hdefault : read .empty root [] = .ok .default := by
    rw [read_empty]
    rfl
  rw [IsIdle, not_forall] at h
  obtain ⟨found, h⟩ := h
  rw [Classical.not_imp] at h
  obtain ⟨hname, hquiet⟩ := h
  rw [hdefault, read_singleton hname]
  intro hread
  obtain ⟨next, hnext, hsettings⟩ := bind_eq_ok.mp hread
  by_cases hbackward : ∃ step ∈ (KeyPath.ofName found).steps, step.IsBackward
  · -- There is nothing yet to count from the end of, so nothing is read at all.
    obtain ⟨failure, hfailure⟩ := assign_nil_of_backward hbackward
    rw [hfailure] at hnext
    cases hnext
  · obtain ⟨key, hkey⟩ : ∃ key : SettingsKey, key.text = (KeyPath.ofName found).first := by
      by_contra hnone
      refine hquiet ⟨fun key hkey => hnone ⟨key, hkey⟩, ?_⟩
      intro step hstep hback
      exact hbackward ⟨step, hstep, hback⟩
    -- The setting is a text that is no default, or a list or a table, which fit nowhere.
    by_cases hsteps : (KeyPath.ofName found).steps = []
    · rw [assign_of_plain hsteps, ← hkey] at hnext
      cases hnext
      exact toSettings_ne_of_isForeign key (.inl rfl) hsettings
    · obtain ⟨value, rfl, hcomposite⟩ := assign_nil_of_steps hsteps hnext
      rw [← hkey] at hsettings
      exact toSettings_ne_of_isForeign key (.inr hcomposite) hsettings

/-- Environments that agree on the watched variables make the same settings, if their other
variables are idle. -/
theorem read_eq_of_isWatched {first second : Environment} (hfirst : IsWatched first)
    (hsecond : IsWatched second) (hfirstNames : (first.map (·.1)).Nodup)
    (hsecondNames : (second.map (·.1)).Nodup)
    (hagree : ∀ name ∈ environmentVariables, first.lookup name = second.lookup name)
    (store : FileStore) (root : FilePath) : read store root first = read store root second := by
  rw [read_eq, read_eq]
  congr 1
  -- The file is read before any variable, so both runs start from the same settings.
  funext file
  cases file.toList.foldlM (gather .written) [] with
  | error failure => rfl
  | ok base =>
    obtain ⟨left, hleft, hleftGet⟩ := @get?_of_isWatched base _ hfirst hfirstNames
    obtain ⟨right, hright, hrightGet⟩ := @get?_of_isWatched base _ hsecond hsecondNames
    show assignAll base (environmentEntries first) environmentOrigin >>= toSettings =
      assignAll base (environmentEntries second) environmentOrigin >>= toSettings
    rw [hleft, hright]
    -- What each key has at the end depends on its own variable only.
    apply toSettings_congr
    intro key
    have hkey := hagree _ (mem_environmentVariables.mpr ⟨key, rfl⟩)
    rw [hleftGet, hrightGet, expected, expected, hkey]

/-- **Settings depend on watched variables only, exactly if all other variables of an environment
are idle.** A watched variable is not idle in any spelling, and it is watched in one spelling
only. -/
theorem read_eq_of_watched_iff {names : String → Prop} :
    ((∀ (store : FileStore) (root : FilePath) (first second : Environment),
        (first.map (·.1)).Nodup → (second.map (·.1)).Nodup →
        (∀ entry ∈ first ++ second, names entry.1) →
        (∀ name ∈ environmentVariables, first.lookup name = second.lookup name) →
        read store root first = read store root second) ↔
      ∀ name, names name → name ∈ environmentVariables ∨ IsIdle name) ∧
    ∀ (key : SettingsKey) (name : String),
      Text.lower name.toList = Text.lower key.environmentVariable.toList →
      (name ∈ environmentVariables ∨ IsIdle name ↔ name = key.environmentVariable) := by
  refine ⟨⟨?_, ?_⟩, ?_⟩
  · -- A variable that is neither makes two environments differ: it alone, and nothing at all.
    intro h name hname
    by_contra hneither
    obtain ⟨hwatched, hidle⟩ := not_or.mp hneither
    apply read_singleton_ne hidle ⟨""⟩
    apply h
    · simp
    · simp
    · rintro entry hentry
      rw [List.mem_singleton.mp hentry]
      exact hname
    · intro watched hmem
      have hne : watched ≠ name := by
        rintro rfl
        exact hwatched hmem
      rw [List.lookup_cons, beq_eq_false_iff_ne.mpr hne]
  · intro h store root first second hfirst hsecond hnames hagree
    have hwatched : ∀ entry ∈ first ++ second,
        entry.1 ∈ environmentVariables ∨ IsIdle entry.1 := fun entry hentry =>
      h _ (hnames entry hentry)
    exact read_eq_of_isWatched (fun entry hentry => hwatched entry (List.mem_append_left _ hentry))
      (fun entry hentry => hwatched entry (List.mem_append_right _ hentry)) hfirst hsecond hagree
      store root
  · intro key name hlower
    have hsame : nameOfVariable? name = nameOfVariable? key.environmentVariable := by
      simp only [nameOfVariable?, hlower]
    have hname := hsame.trans key.nameOfVariable?_environmentVariable
    constructor
    · intro h
      exact eq_environmentVariable h hname
    · rintro rfl
      exact .inl (mem_environmentVariables.mpr ⟨key, rfl⟩)

end Settings

end RouteRegistrar
