import RouteRegistrar.Settings.Toml.Number

/-!
# Table documents

Lines `key = value` below headers `[table]` and `[[list of tables]]`. A header begins a section; the
sections of a document make up its tables. Keys are bare or quoted and may be dotted. Each key of a
table is set once: by a value, by the dotted keys of one section that begin with it, or by the
sections whose headers go through it. A table with the key of a moment in front is that moment.
-/

namespace RouteRegistrar.Settings.Toml

open TokenReader

/-- A value with the path to it. -/
abbrev Assignment := List String × SettingsValue

/-! ## Tables of values -/

/-- The key of a moment that is written as a table. -/
def momentKey : String := "$__toml_private_datetime"

/-- The value of a table: the moment in a text behind the key of a moment, or the table itself. -/
def valueOfTable : SettingsTable → Option SettingsValue
  | [] => some (.table [])
  | (key, value) :: rest =>
    if key = momentKey then
      match value with
      | .text content => (moment.whole? content).map .text
      | _ => none
    else some (.table ((key, value) :: rest))

/-- The names that some paths begin with. -/
def firstNames (paths : List (List String)) : List String := (paths.filterMap List.head?).eraseDups

/-- The table of some values up to a depth. No value stands at or below the path of another. -/
def tableOf (depth : Nat) (assignments : List Assignment) : Option SettingsTable :=
  match depth with
  | 0 => none
  | depth + 1 =>
    (firstNames (assignments.map (·.1))).mapM fun name => do
      let below := assignments.filter fun (path, _) => path.head? = some name
      match below.map fun (path, value) => (path.drop 1, value) with
      | [([], value)] => return (name, value)
      | inner =>
        if inner.any (·.1.isEmpty) then none
        else return (name, ← valueOfTable (← tableOf depth inner))

/-- The table of some values. -/
def table? (assignments : List Assignment) : Option SettingsTable :=
  tableOf (assignments.foldl (fun depth (path, _) => max depth path.length) 0 + 1) assignments

/-! ## Values -/

/-- Takes a key and its value. -/
def assignment (value : TokenReader SettingsValue) : TokenReader Assignment := do
  let path ← key
  expect .equals
  blanks
  return (path, ← value)

/-- Takes the members of an inline table behind its first brace. -/
def members (value : TokenReader SettingsValue) : Nat → TokenReader (List Assignment)
  | 0 => failure
  | fuel + 1 => do
    let head ← assignment value
    blanks
    if ← took .closeBrace then return [head]
    expect .comma
    blanks
    return head :: (← members value fuel)

/-- Takes an inline table behind its first brace. No comma may stand behind its last member. -/
def inlineTable (value : TokenReader SettingsValue) : TokenReader SettingsValue := do
  blanks
  if ← took .closeBrace then return .table []
  let assignments ← members value ((← get).length + 1)
  valueOfTable (← table? assignments)

/-- Takes the elements of a list behind its first bracket. -/
def elements (value : TokenReader SettingsValue) : Nat → TokenReader (List SettingsValue)
  | 0 => failure
  | fuel + 1 => do
    gaps
    if ← took .closeBracket then return []
    let head ← value
    gaps
    if ← took .comma then return head :: (← elements value fuel)
    expect .closeBracket
    return [head]

/-- Whether a word begins a number or a moment. -/
def beginsNumber (cs : List Char) : Bool :=
  cs = "inf".toList || cs = "nan".toList || cs.head?.any fun c => c = '-' || Text.isDigit c

/-- Takes a value with containers up to a depth. -/
def valueWithin : Nat → TokenReader SettingsValue
  | 0 => failure
  | depth + 1 => do
    match ← next with
    | .string content _ => return .text content
    | .word cs => do
      if cs = "true".toList then return .boolean true
      if cs = "false".toList then return .boolean false
      if beginsNumber cs then numberOrMoment cs else failure
    | .plus => number (← word)
    | .openBrace => inlineTable (valueWithin depth)
    | .openBracket => return .list (← elements (valueWithin depth) ((← get).length + 1))
    | _ => failure

/-! ## Sections -/

/-- A header with the values below it. The first section of a document has no header. -/
structure Section where
  header : List String
  isElement : Bool
  assignments : List Assignment

/-- Whether a section is the one of a table itself, as an element of a list. -/
def Section.beginsElement (part : Section) : Bool := part.isElement && part.header.isEmpty

/-- The table of some sections up to a depth. At most one of them is that of the table itself. -/
def tableOfSections : Nat → List Section → Option SettingsTable
  | 0, _ => none
  | depth + 1, sections => do
    let own ← match sections.filter (·.header.isEmpty) with
      | [] => some []
      | [own] => if own.isElement then none else table? own.assignments
      | _ => none
    let tableOfParts (parts : List Section) : Option SettingsValue := do
      let value ← valueOfTable (← tableOfSections depth parts)
      match value with
      | .table entries => return .table entries
      | _ => if parts.length = 1 then return value else none
    let inner ← (firstNames (sections.map (·.header))).mapM fun name => do
      let group := (sections.filter (·.header.head? = some name)).map fun part =>
        { part with header := part.header.drop 1 }
      if group.head?.any Section.beginsElement then
        let elements ← (group.splitBy fun _ next => !next.beginsElement).mapM fun parts =>
          match parts with
          | first :: rest => tableOfParts ({ first with isElement := false } :: rest)
          | [] => none
        return (name, SettingsValue.list elements)
      else return (name, ← tableOfParts group)
    if inner.any fun (name, _) => (own.lookup name).isSome then none
    return if sections.head?.any (·.header.isEmpty) then own ++ inner else inner ++ own

/-! ## Documents -/

/-- Takes a header with the end of its line. -/
def header : TokenReader Section := do
  expect .openBracket
  let isElement ← took .openBracket
  blanks
  let path ← key
  expect .closeBracket
  if isElement then expect .closeBracket
  blanks
  if !(← comment) then newline
  return ⟨path, isElement, []⟩

/-- Takes a key and its value with the end of their line. -/
def valueLine : TokenReader Assignment := do
  let taken ← assignment (valueWithin ((← get).length + 1))
  blanks
  if !(← comment) then newline
  return taken

/-- Takes the sections of a document; the first one has begun. -/
def sectionsFrom (current : Section) : Nat → TokenReader (List Section)
  | 0 => failure
  | fuel + 1 => do
    gaps
    match ← peek? with
    | none => return [current]
    | some .openBracket => do
      let next ← header
      return current :: (← sectionsFrom next fuel)
    | some _ => do
      let taken ← valueLine
      sectionsFrom { current with assignments := current.assignments ++ [taken] } fuel

/-- The value of a document. -/
def document? (source : String) : Option SettingsValue := do
  let tokens ← Token.ofDocument? source
  let (sections, _) ← sectionsFrom ⟨[], false, []⟩ (tokens.length + 1) tokens
  let depth := sections.foldl (fun depth part => max depth part.header.length) 0
  valueOfTable (← tableOfSections (depth + 1) sections)

end RouteRegistrar.Settings.Toml
