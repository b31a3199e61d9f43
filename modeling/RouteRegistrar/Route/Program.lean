import RouteRegistrar.Route.Marker

/-!
# Programs

A program as route generation sees it: the declared types with their annotated methods, the
module path of each declaration, and the entry point. Declarations are numbered in order, and the
module path of a declaration is looked up by its number.
-/

namespace RouteRegistrar

/-- A parameter of a method, with its type as text. -/
structure Parameter where
  name : String
  type : String
  deriving DecidableEq, Repr

/-- A declared method. -/
structure Method where
  name : String
  markers : List Marker
  parameters : List Parameter
  isAsync : Bool
  hasReceiver : Bool
  deriving DecidableEq, Repr

/-- A declared type. -/
structure Declaration where
  id : Nat
  name : String
  markers : List Marker
  methods : List Method
  deriving DecidableEq, Repr

/-- The function a program starts with. Generated sources belong into its module. -/
structure EntryPoint where
  name : String
  modulePath : String
  deriving DecidableEq, Repr

/-- A program: its types in declaration order, their module paths in the same order, and its entry
point. -/
structure Program where
  types : List Declaration
  modulePaths : List (Option String)
  entryPoint : Option EntryPoint
  deriving DecidableEq, Repr

namespace Program

/-- A program without types. -/
def empty (entryPoint : Option EntryPoint) : Program := ⟨[], [], entryPoint⟩

/-- Adds a type, numbered behind the types so far. -/
def declare (program : Program) (path : Option String) (name : String)
    (markers : List Marker) (methods : List Method) : Program :=
  { program with
    types := program.types ++ [⟨program.types.length, name, markers, methods⟩]
    modulePaths := program.modulePaths ++ [path] }

/-- The module path of the declaration with a number. -/
def modulePathOf (program : Program) (id : Nat) : Option String :=
  (program.modulePaths[id]?).join

/-- A new declaration leaves the module paths of the earlier ones. -/
theorem modulePathOf_declare_of_lt {program : Program} {id : Nat}
    (h : id < program.modulePaths.length) (path : Option String) (name : String)
    (markers : List Marker) (methods : List Method) :
    (program.declare path name markers methods).modulePathOf id = program.modulePathOf id := by
  simp only [modulePathOf, declare]
  rw [List.getElem?_append_left h]

/-- A new declaration is found by its number. -/
theorem modulePathOf_declare_self {program : Program}
    (h : program.modulePaths.length = program.types.length) (path : Option String) (name : String)
    (markers : List Marker) (methods : List Method) :
    (program.declare path name markers methods).modulePathOf program.types.length = path := by
  simp only [modulePathOf, declare]
  rw [← h, List.getElem?_concat_length]
  rfl

end Program

/-- The full path of a type. Without a module path it is the bare name. -/
def qualifiedName (path : Option String) (name : String) : String :=
  match path with
  | some path => if path.isEmpty then name else path ++ "::" ++ name
  | none => name

end RouteRegistrar
