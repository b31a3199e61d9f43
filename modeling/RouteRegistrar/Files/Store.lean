import RouteRegistrar.Failure
import RouteRegistrar.Files.Path

/-!
# File stores

The files and directories that a pass reads and writes. An entry is found by its location, the names
of the directories that lead to it from the working directory. A path is followed component by
component, and everything on the way has to be a directory that exists, also in front of two dots.

Locations outside the working directory begin with `..` or `/`. They are directories without
entries.
-/

namespace RouteRegistrar

/-- The names that lead to an entry, the outermost first. -/
abbrev Location := List String

/-- The location that a relative path without dots names. -/
def Location.ofText (text : String) : Location :=
  let names := (Text.splitOn '/' text.toList).filter fun name => !name.isEmpty && name ≠ ['.']
  names.map String.ofList

/-- A directory or a file with its bytes. -/
inductive FileEntry where
  | directory
  | file (content : ByteArray)

/-- All entries of a working directory. -/
structure FileStore where
  entries : List (Location × FileEntry)

namespace FileStore

/-- A working directory without entries. -/
def empty : FileStore := ⟨[]⟩

/-- The working directory, what encloses it and the root are there whatever a store holds. -/
def isFixed (location : Location) : Bool := location = ["/"] || location.all (· = "..")

/-- The entry at a location. The fixed locations are directories. -/
def lookup (store : FileStore) (location : Location) : Option FileEntry :=
  if isFixed location then some .directory
  else (store.entries.find? (·.1 = location)).map (·.2)

/-- Replaces or adds an entry. -/
def set (store : FileStore) (location : Location) (entry : FileEntry) : FileStore :=
  if store.entries.any (·.1 = location) then
    ⟨store.entries.map fun (l, e) => if l = location then (l, entry) else (l, e)⟩
  else ⟨store.entries ++ [(location, entry)]⟩

/-- Adds an entry and the directories that lead to it. -/
def insert (store : FileStore) (location : Location) (entry : FileEntry) : FileStore :=
  let ancestors := (List.range location.length).map (location.take ·)
  let prepared := ancestors.foldl (fun found ancestor =>
    if (found.lookup ancestor).isSome then found else found.set ancestor .directory) store
  prepared.set location entry

/-- Removes an entry and everything below it. -/
def remove (store : FileStore) (location : Location) : FileStore :=
  ⟨store.entries.filter fun (l, _) => !location.isPrefixOf l⟩

/-- All files below a location. -/
def filesBelow (store : FileStore) (location : Location) : List (Location × ByteArray) :=
  store.entries.filterMap fun (l, entry) =>
    match entry with
    | .file content => if location.isPrefixOf l then some (l, content) else none
    | .directory => none

/-! ## Following paths -/

/-- The largest size of a name in bytes. -/
def nameLimit : Nat := 255

/-- The largest size of a path in bytes. -/
def pathLimit : Nat := 4095

/-- More than there are paths of that size. -/
def pathCount : Nat := Nat.pow 256 (pathLimit + 1)

/-- The directory that encloses a directory. -/
def enclosing (location : Location) : Location :=
  if location = ["/"] then location
  else if location.all (· = "..") then ".." :: location
  else location.dropLast

/-- Follows names from a directory. Everything but the last name has to exist. -/
def walk (store : FileStore) (here : Location) : List String → Except FileFault Location
  | [] => .ok here
  | name :: rest =>
    if name = "." then walk store here rest
    else if name = ".." then walk store (enclosing here) rest
    else if name.utf8ByteSize > nameLimit then .error .nameTooLong
    else
      let next := here ++ [name]
      if rest.isEmpty then .ok next
      else
        match store.lookup next with
        | none => .error .notFound
        | some (.file _) => .error .notDirectory
        | some .directory => walk store next rest

/-- The names in a path that are followed, with all dots. -/
def pathNames (path : FilePath) : List String :=
  ((Text.splitOn '/' path.text.toList).filter (!·.isEmpty)).map String.ofList

/-- The location that a path leads to, whether or not there is an entry. -/
def locate (store : FileStore) (path : FilePath) : Except FileFault Location :=
  if path.text.toList.contains '\x00' then .error .containsNull
  else if path.text.isEmpty then .error .notFound
  else if path.text.utf8ByteSize > pathLimit then .error .nameTooLong
  else store.walk (if path.isAbsolute then ["/"] else []) (pathNames path)

/-- Whether a path ends in a slash, so that it has to lead to a directory. -/
def endsInSlash (path : FilePath) : Bool := path.text.toList.getLast? = some '/'

/-- Whether the last name of a path is one or two dots. -/
def endsInDots (path : FilePath) : Bool :=
  (pathNames path).getLast?.any fun name => name = "." || name = ".."

/-- The entry that a path leads to. -/
def find (store : FileStore) (path : FilePath) : Except FileFault FileEntry := do
  match store.lookup (← store.locate path) with
  | none => .error .notFound
  | some .directory => return .directory
  | some (.file content) =>
    if endsInSlash path then .error .notDirectory else return .file content

/-! ## Operations -/

/-- Whether a path leads to a file. -/
def isFile (store : FileStore) (path : FilePath) : Bool :=
  match store.find path with
  | .ok (.file _) => true
  | _ => false

/-- Whether a path leads to a directory. -/
def isDirectory (store : FileStore) (path : FilePath) : Bool :=
  match store.find path with
  | .ok .directory => true
  | _ => false

/-- The text of a file. -/
def readText (store : FileStore) (path : FilePath) : Except FileFault String := do
  match ← store.find path with
  | .directory => .error .isDirectory
  | .file content =>
    match String.fromUTF8? content with
    | some text => return text
    | none => .error .invalidText

/-- Writes a file, which replaces an earlier one. Returns where it was written. -/
def writeText (store : FileStore) (path : FilePath) (text : String) :
    Except FileFault (FileStore × Location) := do
  let location ← store.locate path
  if endsInSlash path && !endsInDots path && path.text ≠ "/" then throw .isDirectory
  match store.lookup location with
  | some .directory => throw .isDirectory
  | _ => return (store.set location (.file text.toUTF8), location)

/-- Creates a directory in one that exists. -/
def createDirectory (store : FileStore) (path : FilePath) : Except FileFault FileStore := do
  let location ← store.locate path
  match store.lookup location with
  | some _ => throw .alreadyExists
  | none => return store.set location .directory

/-- Creates a directory and those that lead to it. A path has at most as many ancestors as it has
characters. What has been created before a fault stays. -/
def createDirectoriesWithin (store : FileStore) :
    Nat → FilePath → FileStore × Except FileFault Unit
  | 0, _ => (store, .error .notFound)
  | fuel + 1, path =>
    if path.components.isEmpty then (store, .ok ())
    else
      match store.createDirectory path with
      | .ok created => (created, .ok ())
      | .error .notFound =>
        match path.parent? with
        | none => (store, .error .notFound)
        | some parent =>
          match createDirectoriesWithin store fuel parent with
          | (above, .error fault) => (above, .error fault)
          | (above, .ok ()) =>
            match above.createDirectory path with
            | .ok created => (created, .ok ())
            | .error fault => (above, if above.isDirectory path then .ok () else .error fault)
      | .error fault => (store, if store.isDirectory path then .ok () else .error fault)

/-- Creates a directory and those that lead to it. -/
def createDirectories (store : FileStore) (path : FilePath) : FileStore × Except FileFault Unit :=
  createDirectoriesWithin store (path.text.length + 2) path

end FileStore

end RouteRegistrar
