import RouteRegistrar.Build.Watch
import RouteRegistrar.Files.Output
import RouteRegistrar.Settings.Read
import RouteRegistrar.Source.Scan

/-!
# Builds

A build is described by the variables of an environment: where the package is, where its artifacts
go, and what the package is called. It reads the settings and the sources, names its inputs, and
writes the artifacts. The inputs are named as soon as the sources have been read, so a build that
fails later still watches them.
-/

namespace RouteRegistrar.Build

/-- The variable with the root of the package. -/
def rootVariable : String := "CARGO_MANIFEST_DIR"

/-- The variable with the directory for the artifacts. -/
def outputVariable : String := "OUT_DIR"

/-- The variable with the name of the package. -/
def packageVariable : String := "CARGO_PKG_NAME"

/-- The path in a variable that has to be set. -/
def pathIn (environment : Environment) (name : String) : Except Failure FilePath :=
  match environment.lookup name with
  | some path => .ok ⟨path⟩
  | none => .error (.missingVariable name)

/-- What a build knows before it writes. -/
structure Inputs where
  root : FilePath
  directory : FilePath
  settings : Settings
  scan : Scan

/-- Reads what a build needs. The settings are gathered in an order. -/
def readInputs (order : GatheringOrder) (store : FileStore) (environment : Environment) :
    Except Failure Inputs := do
  let root ← pathIn environment rootVariable
  let directory ← pathIn environment outputVariable
  let settings ← Settings.readIn order store root environment
  let scan ← (settings.layout root (environment.lookup packageVariable)).scanStore store
  return { root, directory, settings, scan }

/-- What a build prints, and what it leaves of the store. -/
structure Outcome where
  lines : List String
  output : Output

/-- Builds a package. The settings are gathered in an order. -/
def runIn (order : GatheringOrder) (store : FileStore) (environment : Environment) : Outcome :=
  match readInputs order store environment with
  | .error failure => ⟨[], ⟨store, [], .error failure⟩⟩
  | .ok inputs =>
    ⟨watchLines store inputs.root inputs.scan.files,
      store.runInto inputs.directory inputs.scan.program inputs.settings .never⟩

/-- Builds a package. The settings are gathered in the order in which they are written. -/
def run (store : FileStore) (environment : Environment) : Outcome :=
  runIn .written store environment

end RouteRegistrar.Build
