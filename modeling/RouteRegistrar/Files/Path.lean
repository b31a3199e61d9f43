import RouteRegistrar.Text.CharClass

/-!
# File paths

A path is kept exactly as it was joined. Its components are what is left when repeated slashes and
single dots are dropped; a single dot counts only at the beginning of a relative path. Two dots are
a component like any other.
-/

namespace RouteRegistrar

open Text

/-- A path with slashes between its components. -/
structure FilePath where
  text : String
  deriving DecidableEq, Repr

namespace FilePath

/-- A path as a list of segments between slashes, the last one first. -/
abbrev Segments := List (List Char)

/-- Whether a path starts at the root. -/
def isAbsolute (path : FilePath) : Bool := path.text.toList.head? = some '/'

/-- Appends a path. An absolute path replaces the first one. -/
def join (base : FilePath) (path : FilePath) : FilePath :=
  if path.isAbsolute then path
  else
    match base.text.toList.getLast? with
    | some '/' => ⟨base.text ++ path.text⟩
    | some _ => ⟨base.text ++ "/" ++ path.text⟩
    | none => path

/-- The segments, the last one first. -/
def reversedSegments (path : FilePath) : Segments := (splitOn '/' path.text.toList).reverse

/-- Segments that are no components unless they come first. -/
def isVoid (segment : List Char) : Bool := segment.isEmpty || segment = ['.']

/-- Drops segments behind the last component. -/
def trimEnd : Segments → Segments
  | [] => []
  | [first] => [first]
  | last :: before => if isVoid last then trimEnd before else last :: before

/-- The path of some segments. -/
def ofSegments (segments : Segments) : FilePath :=
  match segments with
  | [[]] => ⟨"/"⟩
  | _ => ⟨String.ofList (['/'].intercalate segments.reverse)⟩

/-- The components. An absolute path has the component `/` in front. -/
def components (path : FilePath) : List String :=
  match splitOn '/' path.text.toList with
  | [] => []
  | first :: rest =>
    let behind := (rest.filter (!isVoid ·)).map String.ofList
    if path.isAbsolute then "/" :: behind
    else if first.isEmpty then behind
    else String.ofList first :: behind

/-- The path without its last component. -/
def parent? (path : FilePath) : Option FilePath :=
  match trimEnd path.reversedSegments with
  | [] => none
  | [only] => if only.isEmpty then none else some ⟨""⟩
  | _ :: before => some (ofSegments (trimEnd before))

/-- The last component, if it is a name. -/
def fileName? (path : FilePath) : Option String :=
  match trimEnd path.reversedSegments with
  | [] => none
  | last :: _ =>
    if isVoid last || last = ['.', '.'] then none else some (String.ofList last)

/-- The last component without its extension. A dot at its beginning starts no extension. -/
def fileStem? (path : FilePath) : Option String :=
  path.fileName?.map fun name =>
    match name.toList.reverse.dropWhile (· ≠ '.') with
    | _ :: stem => if stem.isEmpty then name else String.ofList stem.reverse
    | [] => name

end FilePath

end RouteRegistrar
