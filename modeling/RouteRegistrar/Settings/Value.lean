import RouteRegistrar.Decimal.Shortest

/-!
# Settings values

What a settings document consists of, whatever its format: single values, lists and tables. A table
has at most one value for a key; setting a key again replaces its value in place.
-/

namespace RouteRegistrar

/-- A value in a settings document. -/
inductive SettingsValue where
  | null
  | boolean (value : Bool)
  | integer (value : Int)
  | float (value : Binary64)
  | text (value : String)
  | list (values : List SettingsValue)
  | table (entries : List (String × SettingsValue))
  deriving Repr

/-- The entries of a table. -/
abbrev SettingsTable := List (String × SettingsValue)

namespace SettingsTable

/-- Replaces the value of a key, or adds the key at the end. -/
def set (entries : SettingsTable) (key : String) (value : SettingsValue) : SettingsTable :=
  match entries with
  | [] => [(key, value)]
  | (k, v) :: rest => if k = key then (k, value) :: rest else (k, v) :: set rest key value

/-- The table of some entries. Of two entries with one key the later one counts. -/
def ofEntries (entries : List (String × SettingsValue)) : SettingsTable :=
  entries.foldl (fun table (key, value) => set table key value) []

end SettingsTable

namespace SettingsValue

/-- The entries of a table. Any other value counts as an empty one. -/
def entries : SettingsValue → SettingsTable
  | .table entries => entries
  | _ => []

/-- The elements of a list. Any other value counts as an empty one. -/
def elements : SettingsValue → List SettingsValue
  | .list values => values
  | _ => []

end SettingsValue

end RouteRegistrar
