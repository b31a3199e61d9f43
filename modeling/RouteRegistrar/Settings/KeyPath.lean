import RouteRegistrar.Failure
import RouteRegistrar.Settings.Reader

/-!
# Key paths

The name of a setting may be a path: a key, followed by keys behind dots and by indices in brackets.
A name that is no path is a plain key. `assign` puts a value where a path leads, and makes the
tables and lists on the way as it needs them.

An assigned table is merged into what is there already, key by key.
-/

namespace RouteRegistrar

/-- A step of a key path. -/
inductive KeyStep where
  | key (name : String)
  | index (position : Int)
  deriving DecidableEq, Repr

/-- A path that leads to a setting. -/
structure KeyPath where
  first : String
  steps : List KeyStep
  deriving DecidableEq, Repr

namespace KeyPath

open Settings.Reader

/-! ## Reading -/

/-- A character of a key. -/
def isKeyChar (c : Char) : Bool := c.isAlphanum || c = ' ' || c = '_' || c = '-'

/-- Takes a key. -/
def key : Settings.Reader String := do return String.ofList (← run1 isKeyChar)

/-- Takes blanks on one line. -/
def gap : Settings.Reader Unit := do discard (run fun c => c = ' ' || c = '\t')

/-- Takes the position in an index. -/
def position : Settings.Reader Int := do
  gap
  let isNegative ← took (char '-')
  let digits ← run1 Text.isDigit
  gap
  let n : Int := Decimal.ofDigits digits
  match Decimal.fitting? (if isNegative then -n else n) with
  | some n => return n
  | none => failure

/-- Takes a step. -/
def step : Settings.Reader KeyStep :=
  (do char '.'; return .key (← key)) <|> (do char '['; let n ← position; char ']'; return .index n)

/-- The path that a name stands for. -/
def ofName (name : String) : KeyPath :=
  let path : Settings.Reader KeyPath := do
    let first ← key
    return ⟨first, ← many step⟩
  (path.whole? name).getD ⟨name, []⟩

end KeyPath

/-! ## Assigning -/

namespace SettingsValue

mutual

/-- Puts a value at a key of a table. -/
def setKey (entries : SettingsTable) (key : String) : SettingsValue → SettingsTable
  | .table incoming =>
    entries.set key (mergeEntries ((entries.lookup key).getD (.table [])) incoming)
  | value => entries.set key value

/-- Puts entries into a value, which becomes a table unless there are none. -/
def mergeEntries (target : SettingsValue) : List (String × SettingsValue) → SettingsValue
  | [] => target
  | (key, value) :: rest => mergeEntries (.table (setKey target.entries key value)) rest

end

/-- The place of a position in a list. A negative one counts from the end; there is none in front of
the list. -/
def placeOf (length : Nat) (position : Int) : Except Failure Nat :=
  if 0 ≤ position then .ok position.toNat
  else
    let place := (length : Int) + position
    if 0 ≤ place then .ok place.toNat else .error (.missingPlace position)

/-- Replaces an element. A list that is too short is filled up. -/
def setPlace (values : List SettingsValue) (place : Nat) (value : SettingsValue) :
    List SettingsValue :=
  (values ++ List.replicate (place + 1 - values.length) SettingsValue.null).set place value

/-- Puts a value where steps from another value lead. -/
def assignBelow (target : SettingsValue) (value : SettingsValue) :
    List KeyStep → Except Failure SettingsValue
  | [] => .ok value
  | [.key key] => .ok (.table (setKey target.entries key value))
  | .key key :: rest => do
    let below ← assignBelow ((target.entries.lookup key).getD .null) value rest
    return .table (target.entries.set key below)
  | .index position :: rest => do
    let place ← placeOf target.elements.length position
    let below ← assignBelow (target.elements[place]?.getD .null) value rest
    return .list (setPlace target.elements place below)

end SettingsValue

end RouteRegistrar
