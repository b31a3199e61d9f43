import RouteRegistrar.Settings.Gathering

/-!
# Reading settings

Each setting is a text or a boolean. A value of another type is converted: single values have a
text, numbers are true unless they are zero, and some words are booleans. Lists and tables fit
nowhere. A setting that is absent or null has its default.
-/

namespace RouteRegistrar

namespace GatheredValue

/-- The failure of a value that does not fit its key. -/
def misfit (gathered : GatheredValue) (found : ValueShape) (expected : ExpectedValue)
    (key : SettingsKey) : Except Failure α :=
  .error (.settings (.wrongType found expected key.text gathered.origin))

/-- The text of a value, or the default of a null. -/
def toText (gathered : GatheredValue) (key : SettingsKey) (default : String) :
    Except Failure String :=
  match gathered.value with
  | .null => .ok default
  | .boolean value => .ok (if value then "true" else "false")
  | .integer value => .ok (toString value)
  | .float value => .ok value.text
  | .text value => .ok value
  | .list _ => gathered.misfit .sequence .string key
  | .table _ => gathered.misfit .map .string key

/-- The boolean that a word stands for. -/
def booleanOfWord? (word : String) : Option Bool :=
  if ["1", "true", "on", "yes"].contains word then some true
  else if ["0", "false", "off", "no"].contains word then some false
  else none

/-- The boolean of a value, or the default of a null. -/
def toBoolean (gathered : GatheredValue) (key : SettingsKey) (default : Bool) :
    Except Failure Bool :=
  match gathered.value with
  | .null => .ok default
  | .boolean value => .ok value
  | .integer value => .ok (value ≠ 0)
  | .float value => .ok (!value.isZero)
  | .text value =>
    let word := String.ofList (Text.lower value.toList)
    match booleanOfWord? word with
    | some meaning => .ok meaning
    | none => gathered.misfit (.string word) .boolean key
  | .list _ => gathered.misfit .sequence .boolean key
  | .table _ => gathered.misfit .map .boolean key

end GatheredValue

namespace GatheredSettings

/-- The text of a setting. -/
def textOf (settings : GatheredSettings) (key : SettingsKey) (default : String) :
    Except Failure String :=
  match settings.get? key.text with
  | none => .ok default
  | some gathered => gathered.toText key default

/-- The boolean of a setting. -/
def booleanOf (settings : GatheredSettings) (key : SettingsKey) (default : Bool) :
    Except Failure Bool :=
  match settings.get? key.text with
  | none => .ok default
  | some gathered => gathered.toBoolean key default

/-- The settings that gathered values make. -/
def toSettings (settings : GatheredSettings) : Except Failure Settings := do
  let default := Settings.default
  return {
    entryFile := ⟨← settings.textOf .entryFile default.entryFile.text⟩
    libraryFile := ⟨← settings.textOf .libraryFile default.libraryFile.text⟩
    attributesArtifact := ← settings.textOf .attributesArtifact default.attributesArtifact
    registrationsArtifact := ← settings.textOf .registrationsArtifact default.registrationsArtifact
    registrationFunction := ← settings.textOf .registrationFunction default.registrationFunction
    showsLog := ← settings.booleanOf .showsLog default.showsLog }

end GatheredSettings

namespace Settings

/-- The settings of a package in an environment, gathered in an order. -/
def readIn (order : GatheringOrder) (store : FileStore) (root : FilePath)
    (environment : Environment) : Except Failure Settings := do
  (← GatheredSettings.ofPackage order store root environment).toSettings

/-- The settings of a package in an environment, gathered in the order in which they are written. -/
def read (store : FileStore) (root : FilePath) (environment : Environment) :
    Except Failure Settings :=
  readIn .written store root environment

end Settings

end RouteRegistrar
