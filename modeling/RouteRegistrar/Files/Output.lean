import RouteRegistrar.Files.Store
import RouteRegistrar.Route.Artifact

/-!
# Writing artifacts

Artifacts are written into a directory, which is created first. A file that already holds the text
of its artifact is left alone, so a pass that changes nothing writes nothing. The first fault ends
the writing; what has been written before it stays.
-/

namespace RouteRegistrar

/-- What is left of writing to a store: the store, where something has been written, and how the
writing ended. -/
structure Output where
  store : FileStore
  written : List Location
  result : Except Failure Unit

namespace FileStore

/-- Whether the file that a path leads to holds a text. -/
def holds (store : FileStore) (path : FilePath) (text : String) : Bool :=
  match store.readText path with
  | .ok found => found = text
  | .error _ => false

/-- Writes artifacts into a directory that exists. -/
def writeArtifacts (store : FileStore) (directory : FilePath) : List Artifact → Output
  | [] => ⟨store, [], .ok ()⟩
  | artifact :: rest =>
    let path := directory.join ⟨artifact.name⟩
    if store.holds path artifact.text then store.writeArtifacts directory rest
    else
      match store.writeText path artifact.text with
      | .error fault => ⟨store, [], .error (.file path.text fault)⟩
      | .ok (next, location) =>
        let more := next.writeArtifacts directory rest
        { more with written := location :: more.written }

/-- Writes artifacts into a directory, which is created if it does not exist. -/
def addArtifacts (store : FileStore) (directory : FilePath) (artifacts : List Artifact) : Output :=
  match store.createDirectories directory with
  | (created, .error fault) => ⟨created, [], .error (.file directory.text fault)⟩
  | (created, .ok ()) => created.writeArtifacts directory artifacts

/-- Generates the artifacts of a program and writes them into a directory. Nothing is written unless
all of them have been generated. -/
def runInto (store : FileStore) (directory : FilePath) (program : Program) (settings : Settings)
    (token : CancellationToken) : Output :=
  match program.generate settings token with
  | .error failure => ⟨store, [], .error failure⟩
  | .ok artifacts => store.addArtifacts directory artifacts

end FileStore

end RouteRegistrar
