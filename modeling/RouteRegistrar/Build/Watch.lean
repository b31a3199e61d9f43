import RouteRegistrar.Files.Store
import RouteRegistrar.Settings.Basic

/-!
# Watched inputs

A build names what it depends on, one line per input: the settings file if there is one, every
source file that was read, and every variable that overrides a setting.
-/

namespace RouteRegistrar.Build

/-- The line that watches a file. -/
def fileLine (path : FilePath) : String := "cargo:rerun-if-changed=" ++ path.text

/-- The line that watches a variable of the environment. -/
def variableLine (name : String) : String := "cargo:rerun-if-env-changed=" ++ name

/-- The lines that watch the inputs of a package. -/
def watchLines (store : FileStore) (root : FilePath) (files : List FilePath) : List String :=
  let settingsFile := root.join Settings.fileName
  (if store.isFile settingsFile then [settingsFile] else []).map fileLine ++
    files.map fileLine ++ Settings.environmentVariables.map variableLine

end RouteRegistrar.Build
