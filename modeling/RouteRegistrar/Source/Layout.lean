import RouteRegistrar.Files.Path

/-!
# Package layouts

Where the sources of a package are: the root file of the target with the entry point, and the root
file and the crate name of the library, which may both be missing.
-/

namespace RouteRegistrar

/-- The location of the sources of a package. -/
structure PackageLayout where
  root : FilePath
  /-- Relative to the root of the package. -/
  entryFile : FilePath
  /-- Relative to the root of the package. -/
  libraryFile : Option FilePath
  libraryName : Option String
  deriving DecidableEq, Repr

namespace PackageLayout

/-- The crate name of a package: hyphens become low lines. -/
def crateName (packageName : String) : String :=
  String.ofList (packageName.toList.map fun c => if c = '-' then '_' else c)

/-- The entry file of a package, unless settings give another. -/
def defaultEntryFile : FilePath := ⟨"src/main.rs"⟩

/-- The library file of a package, unless settings give another. -/
def defaultLibraryFile : FilePath := ⟨"src/lib.rs"⟩

/-- The conventional layout of a package. -/
def conventional (root : FilePath) (packageName : Option String) : PackageLayout :=
  ⟨root, defaultEntryFile, some defaultLibraryFile, packageName.map crateName⟩

end PackageLayout

end RouteRegistrar
