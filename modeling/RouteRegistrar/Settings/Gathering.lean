import RouteRegistrar.Failure
import RouteRegistrar.Files.Store
import RouteRegistrar.Settings.Basic
import RouteRegistrar.Settings.Format
import RouteRegistrar.Settings.KeyPath

/-!
# Gathering settings

Values come from a settings file, if a package has one, and then from the variables of the
environment, which are always texts. Each name is a key path, and a later value replaces an earlier
one. A value remembers where it was written; a table, and a list that was made for an index, does
not.

The entries of a source are kept without an order, and so are the formats in which a settings file
may be written. What is gathered is therefore described for each order in which they may be gone
through.
-/

namespace RouteRegistrar

/-- The variables of an environment. Of two variables for one setting the later one counts. -/
abbrev Environment := List (String × String)

/-- A gathered value with its origin. -/
structure GatheredValue where
  value : SettingsValue
  origin : Option String

/-- The gathered values by their keys. -/
abbrev GatheredSettings := List (String × GatheredValue)

namespace GatheredSettings

/-- The value of a key. -/
def get? (settings : GatheredSettings) (key : String) : Option GatheredValue := settings.lookup key

/-- Replaces the value of a key. -/
def set (settings : GatheredSettings) (key : String) (value : GatheredValue) : GatheredSettings :=
  (key, value) :: settings.filter (·.1 ≠ key)

/-- What a value becomes when another one is put in its place or below it. A list that stays a list
keeps its origin. -/
def updated (old : GatheredValue) (new : SettingsValue) : GatheredValue :=
  match old.value, new with
  | .list _, .list _ => ⟨new, old.origin⟩
  | _, _ => ⟨new, none⟩

/-- What a key has once a value has been put where steps lead from it. A table is merged into what
is there. -/
def put (old : Option GatheredValue) (steps : List KeyStep) (value : SettingsValue)
    (origin : Option String) : Except Failure GatheredValue :=
  match steps, value with
  | [], .table [] => .ok (old.getD ⟨.table [], none⟩)
  | [], .table entries =>
    let target := (old.map (·.value)).getD (.table [])
    .ok ⟨target.mergeEntries entries, none⟩
  | [], _ => .ok ⟨value, origin⟩
  | steps, _ =>
    let before := old.getD ⟨.null, none⟩
    (before.value.assignBelow value steps).map (updated before)

/-- Puts a value where the key path of a name leads. -/
def assign (settings : GatheredSettings) (name : String) (value : SettingsValue)
    (origin : Option String) : Except Failure GatheredSettings :=
  let path := KeyPath.ofName name
  (put (settings.get? path.first) path.steps value origin).map (settings.set path.first)

/-- Puts entries where their names lead, one after the other. -/
def assignAll (settings : GatheredSettings) (entries : SettingsTable) (origin : String) :
    Except Failure GatheredSettings :=
  entries.foldlM (fun gathered (name, value) => gathered.assign name value (some origin)) settings

end GatheredSettings

/-! ## Sources -/

/-- Where settings come from: entries, and how they are named as an origin. -/
structure SettingsSource where
  entries : SettingsTable
  origin : String

/-- An order in which settings are gathered: one of the formats, and one of the entries of each
source. -/
structure GatheringOrder where
  formats : List SettingsFormat
  formats_perm : formats.Perm SettingsFormat.all
  entriesOf : SettingsSource → SettingsTable
  entriesOf_perm (source : SettingsSource) : (entriesOf source).Perm source.entries

namespace GatheringOrder

/-- The order in which formats and entries are written. -/
def written : GatheringOrder where
  formats := SettingsFormat.all
  formats_perm := .refl _
  entriesOf := (·.entries)
  entriesOf_perm _ := .refl _

end GatheringOrder

namespace GatheredSettings

/-- Gathers the entries of a source. -/
def gather (order : GatheringOrder) (settings : GatheredSettings) (source : SettingsSource) :
    Except Failure GatheredSettings :=
  settings.assignAll (order.entriesOf source) source.origin

/-- The places where the settings file of a package may be, with its format there: the one without a
further ending, and then those with the endings of all formats. -/
def places (order : GatheringOrder) (root : FilePath) : List (FilePath × SettingsFormat) :=
  (root.join Settings.fileName, .json) :: order.formats.flatMap fun format =>
    format.endings.map fun ending => (root.join ⟨Settings.fileName.text ++ "." ++ ending⟩, format)

/-- The settings file of a package with its format. -/
def file? (order : GatheringOrder) (store : FileStore) (root : FilePath) :
    Option (FilePath × SettingsFormat) :=
  (places order root).find? fun place => store.isFile place.1

/-- How a settings file is named as an origin: by its components. -/
def originOf (path : FilePath) : String :=
  if path.isAbsolute then path.text
  else "/".intercalate (path.components.filter (· ≠ "."))

/-- What a package has in its settings file. A file whose bytes are no text counts as missing, and a
document that is no table has no entries. -/
def fileSource? (order : GatheringOrder) (store : FileStore) (root : FilePath) :
    Except Failure (Option SettingsSource) :=
  match file? order store root with
  | none => .ok none
  | some (path, format) =>
    match store.readText path with
    | .error _ => .ok none
    | .ok text =>
      match format.document? text with
      | none => .error (.settings .malformed)
      | some value => .ok (some ⟨value.entries, originOf path⟩)

/-- The origin of what a variable sets. -/
def environmentOrigin : String := "the environment"

/-- The name that a variable sets, if it sets one: what follows the beginning that all of them have,
in lowercase. -/
def nameOfVariable? (full : String) : Option String :=
  let start := Text.lower SettingsKey.variableStart.toList
  (start.isPrefixOf? (Text.lower full.toList)).map String.ofList

/-- The entries that an environment sets. -/
def environmentEntries (environment : Environment) : SettingsTable :=
  SettingsTable.ofEntries (environment.filterMap fun (full, text) =>
    (nameOfVariable? full).map fun name => (name, .text text))

/-- What an environment sets. -/
def environmentSource (environment : Environment) : SettingsSource :=
  ⟨environmentEntries environment, environmentOrigin⟩

/-- The sources of the settings of a package, later ones taking precedence. -/
def sources (order : GatheringOrder) (store : FileStore) (root : FilePath)
    (environment : Environment) : Except Failure (List SettingsSource) := do
  return (← fileSource? order store root).toList ++ [environmentSource environment]

/-- Gathers the settings of a package. -/
def ofPackage (order : GatheringOrder) (store : FileStore) (root : FilePath)
    (environment : Environment) : Except Failure GatheredSettings := do
  (← sources order store root environment).foldlM (gather order) []

end GatheredSettings

end RouteRegistrar
