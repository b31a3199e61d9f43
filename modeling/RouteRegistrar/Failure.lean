import RouteRegistrar.Text.Quoted

/-!
# Failures

Everything that ends a pass early, each case a cause of its own, with the wording in one function.
The last three causes are bugs of a caller: they abort a pass instead of being reported.
-/

namespace RouteRegistrar

/-- Why a file operation fails. -/
inductive FileFault where
  | invalidText
  | notFound
  | alreadyExists
  | notDirectory
  | isDirectory
  | nameTooLong
  | containsNull
  deriving DecidableEq, Repr

/-- The system's wording of a file fault. -/
def FileFault.message : FileFault → String
  | .invalidText => "stream did not contain valid UTF-8"
  | .notFound => "No such file or directory (os error 2)"
  | .alreadyExists => "File exists (os error 17)"
  | .notDirectory => "Not a directory (os error 20)"
  | .isDirectory => "Is a directory (os error 21)"
  | .nameTooLong => "File name too long (os error 36)"
  | .containsNull => "file name contained an unexpected NUL byte"

/-- The kind of a settings value that does not fit its key. -/
inductive ValueShape where
  | sequence
  | map
  | string (text : String)
  deriving DecidableEq, Repr

/-- The wording of a value. A text is quoted, with escapes. -/
def ValueShape.message : ValueShape → String
  | .sequence => "sequence"
  | .map => "map"
  | .string text => "string \"" ++ String.ofList (text.toList.flatMap (Text.Quoted.escapeChar · []))
      ++ "\""

/-- What a settings key expects. -/
inductive ExpectedValue where
  | string
  | boolean
  deriving DecidableEq, Repr

/-- The wording of what is expected. -/
def ExpectedValue.message : ExpectedValue → String
  | .string => "a string"
  | .boolean => "a boolean"

/-- Why settings cannot be read. -/
inductive SettingsFault where
  /-- A settings file is not a document of its format. -/
  | malformed
  /-- A value has the wrong type. `origin` is where it was written, if that is known. -/
  | wrongType (found : ValueShape) (expected : ExpectedValue) (key : String)
      (origin : Option String)
  deriving DecidableEq, Repr

/-- The wording of a settings fault. -/
def SettingsFault.message : SettingsFault → String
  | .malformed => "malformed settings file"
  | .wrongType found expected key origin =>
    "invalid type: " ++ found.message ++ ", expected " ++ expected.message ++ " for key `" ++ key ++
      "`" ++ (origin.map (" in " ++ ·)).getD ""

/-- What ends a pass early. -/
inductive Failure where
  | missingEntryPoint
  | cancelled
  | file (path : String) (fault : FileFault)
  | malformedSource (path : String)
  | settings (fault : SettingsFault)
  | missingVariable (name : String)
  /-- A text that has to become an identifier is none. -/
  | invalidIdentifier (text : String)
  /-- A construct has no printed form. -/
  | unprintable
  /-- An index counts back beyond the beginning of a list. -/
  | missingPlace (position : Int)
  deriving DecidableEq, Repr

namespace Failure

/-- Failures that abort instead of being reported. -/
def isAbort : Failure → Bool
  | invalidIdentifier _ => true
  | unprintable => true
  | missingPlace _ => true
  | _ => false

/-- The wording of a failure. -/
def message : Failure → String
  | missingEntryPoint => "Cannot find a program entry point to anchor generated sources."
  | cancelled => "Generation has been cancelled."
  | file path fault => "I/O error for " ++ path ++ ": " ++ fault.message
  | malformedSource path => "Malformed source file " ++ path
  | settings fault => fault.message
  | missingVariable name => "Missing environment variable: " ++ name
  | invalidIdentifier text => "No identifier: " ++ text
  | unprintable => "A construct has no printed form."
  | missingPlace position => "No place in a list: " ++ toString position

end Failure

/-- A computation in two parts succeeds if both parts do. -/
theorem bind_eq_ok {ε α β : Type} {first : Except ε α} {next : α → Except ε β} {result : β} :
    (first >>= next) = .ok result ↔ ∃ value, first = .ok value ∧ next value = .ok result := by
  cases first with
  | error failure => exact ⟨nofun, nofun⟩
  | ok value =>
    constructor
    · intro h
      exact ⟨value, rfl, h⟩
    · rintro ⟨_, hvalue, h⟩
      cases hvalue
      exact h

/-- A computation in two parts fails if the first part does, or the second one behind it. -/
theorem bind_eq_error {ε α β : Type} {first : Except ε α} {next : α → Except ε β} {failure : ε} :
    (first >>= next) = .error failure ↔
      first = .error failure ∨ ∃ value, first = .ok value ∧ next value = .error failure := by
  cases first with
  | error found =>
    constructor
    · intro h
      cases h
      exact .inl rfl
    · rintro (h | ⟨_, hvalue, -⟩)
      · cases h
        rfl
      · cases hvalue
  | ok value =>
    constructor
    · intro h
      exact .inr ⟨value, rfl, h⟩
    · rintro (h | ⟨_, hvalue, h⟩)
      · cases h
      · cases hvalue
        exact h

/-- A computation for each member of a list succeeds if all of them do. -/
theorem mapM_cons_eq_ok {ε α β : Type} {compute : α → Except ε β} {first : α} {rest : List α}
    {results : List β} :
    (first :: rest).mapM compute = .ok results ↔ ∃ head tail, compute first = .ok head ∧
      rest.mapM compute = .ok tail ∧ results = head :: tail := by
  rw [List.mapM_cons]
  constructor
  · intro h
    obtain ⟨head, hhead, h⟩ := bind_eq_ok.mp h
    obtain ⟨tail, htail, h⟩ := bind_eq_ok.mp h
    exact ⟨head, tail, hhead, htail, (Except.ok.inj h).symm⟩
  · rintro ⟨head, tail, hhead, htail, rfl⟩
    exact bind_eq_ok.mpr ⟨head, hhead, bind_eq_ok.mpr ⟨tail, htail, rfl⟩⟩

/-- A result that can be seen is the result. -/
theorem eq_ok_of_toOption {ε α : Type} {computed : Except ε α} {value : α}
    (h : computed.toOption = some value) : computed = .ok value := by
  cases computed with
  | error failure => cases h
  | ok result => exact congrArg Except.ok (Option.some.inj h)

/-- What can be seen of a result is there only if there is one. -/
theorem exists_ok_of_map_toOption {ε α β : Type} {computed : Except ε α} {view : α → β} {value : β}
    (h : computed.toOption.map view = some value) :
    ∃ result, computed = .ok result ∧ view result = value := by
  cases computed with
  | error failure => cases h
  | ok result => exact ⟨result, rfl, Option.some.inj h⟩

/-- The failure of a computation, if it fails. -/
def failure? {ε α : Type} : Except ε α → Option ε
  | .error failure => some failure
  | .ok _ => none

theorem eq_error_of_failure? {ε α : Type} {computed : Except ε α} {failure : ε}
    (h : failure? computed = some failure) : computed = .error failure := by
  cases computed with
  | error found => exact congrArg Except.error (Option.some.inj h)
  | ok result => cases h

end RouteRegistrar
