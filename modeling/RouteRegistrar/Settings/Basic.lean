import RouteRegistrar.Route.Registration
import RouteRegistrar.Source.Layout

/-!
# Settings

What a package may change about a pass: where its sources are, the names of the two artifacts, the
name of the registration function, and whether log messages are shown. Each setting has a key, and a
variable of the environment that overrides it.
-/

namespace RouteRegistrar

/-- The settings of a pass. -/
structure Settings where
  entryFile : FilePath
  libraryFile : FilePath
  attributesArtifact : String
  registrationsArtifact : String
  registrationFunction : String
  showsLog : Bool
  deriving DecidableEq, Repr

/-- The key of a setting. -/
inductive SettingsKey where
  | entryFile
  | libraryFile
  | attributesArtifact
  | registrationsArtifact
  | registrationFunction
  | showsLog
  deriving DecidableEq, Repr

namespace SettingsKey

/-- All keys in order. -/
def all : List SettingsKey :=
  [entryFile, libraryFile, attributesArtifact, registrationsArtifact, registrationFunction,
    showsLog]

/-- The key as it is written. -/
def text : SettingsKey → String
  | entryFile => "entry_file"
  | libraryFile => "library_file"
  | attributesArtifact => "attributes_artifact"
  | registrationsArtifact => "registrations_artifact"
  | registrationFunction => "registration_function"
  | showsLog => "install_tracing_logger"

/-- What the names of all variables begin with. -/
def variableStart : String := "AOT_ROUTES_"

/-- The variable that overrides a setting. -/
def environmentVariable (key : SettingsKey) : String := variableStart ++ key.text.map Char.toUpper

end SettingsKey

namespace Settings

/-- The settings of a package that changes none. -/
def default : Settings where
  entryFile := PackageLayout.defaultEntryFile
  libraryFile := PackageLayout.defaultLibraryFile
  attributesArtifact := "attributes.rs"
  registrationsArtifact := "web_application_extensions.rs"
  registrationFunction := Registration.defaultFunction
  showsLog := true

/-- The variables that override settings. -/
def environmentVariables : List String := SettingsKey.all.map (·.environmentVariable)

/-- The settings file of a package, relative to its root. -/
def fileName : FilePath := ⟨"aot-routes.json"⟩

end Settings

/-- The layout of a package under its settings. -/
def Settings.layout (settings : Settings) (root : FilePath) (packageName : Option String) :
    PackageLayout :=
  { PackageLayout.conventional root packageName with
    entryFile := settings.entryFile
    libraryFile := some settings.libraryFile }

end RouteRegistrar
