import RouteRegistrar.Settings.Yaml.Token

/-!
# Nodes of a document

A node is a scalar, a list or a table, or stands for another node by its anchor. What a plain scalar
means follows from its spelling, unless it has a tag; a quoted one or a block of lines is a text.
Where a node is missing there is a null, or an empty scalar if there is at least an anchor or a tag.
-/

namespace RouteRegistrar.Settings.Yaml

/-! ## Meaning of scalars -/

/-- What a node means as a key of a table. -/
inductive NodeKey where
  /-- A key of the table. -/
  | text (content : String)
  /-- No key of a table: its value is dropped. -/
  | other
  /-- Not even a node: what follows takes its place. -/
  | invalid
  deriving DecidableEq, Repr

/-- A node: what it means as a key, and its value, if there is one. -/
structure Node where
  key : NodeKey
  value? : Option SettingsValue
  deriving Repr

namespace Node

/-- A node that is no text. -/
def ofValue (value : SettingsValue) : Node := ⟨.other, some value⟩

/-- The node of a text. -/
def text (content : String) : Node := ⟨.text content, some (.text content)⟩

/-- The node without a value. -/
def null : Node := ofValue .null

/-- A scalar that does not fit its tag. -/
def invalid : Node := ⟨.invalid, some .null⟩

/-- Spellings of numbers that are not finite. There is no value for them. -/
def unusable : List String :=
  [".inf", ".Inf", ".INF", "+.inf", "+.Inf", "+.INF", "-.inf", "-.Inf", "-.INF", ".nan", ".NAN"]

/-- The node of a number that need not be an integer. -/
def number? (cs : List Char) : Option Node :=
  if unusable.contains (String.ofList cs) then some ⟨.other, none⟩
  else (Decimal.ofText? cs).map (ofValue <| .float ·)

/-- The integer of a plain scalar. There may be a sign in front of the sign. -/
def integer? (cs : List Char) : Option Int :=
  match cs with
  | '0' :: 'x' :: digits => Decimal.integerIn? 16 digits
  | '0' :: 'o' :: digits => Decimal.integerIn? 8 digits
  | '+' :: digits => Decimal.integer? digits
  | _ => Decimal.integer? cs

/-- The truth value with a name. -/
def boolean? : String → Option Bool
  | "true" => some true
  | "false" => some false
  | _ => none

/-- Whether a spelling stands for null. -/
def isNull (content : String) : Bool := content = "~" || content = "null"

/-- The node of a plain scalar without a tag. -/
def ofPlain (content : String) : Node :=
  let cs := content.toList
  match boolean? content, integer? cs, number? cs with
  | some value, _, _ => ofValue (.boolean value)
  | _, some n, _ => ofValue (.integer n)
  | _, _, some node => node
  | _, _, _ => if isNull content then null else text content

/-- The node of a plain scalar with a tag. -/
def ofTagged (name : Option String) (content : String) : Node :=
  let cs := content.toList
  match name with
  | some "bool" => (boolean? content).elim invalid (ofValue <| .boolean ·)
  | some "int" => (Decimal.integer? cs).elim invalid (ofValue <| .integer ·)
  | some "float" => (number? cs).getD invalid
  | some "null" => if isNull content then null else invalid
  | _ => text content

/-- The node of a list. -/
def ofElements (nodes : List Node) : Node :=
  ⟨.other, (nodes.mapM Node.value?).map .list⟩

/-- The entries of keys and values that follow each other. -/
def entries : Option NodeKey → List Node → List (String × Option SettingsValue)
  | _, [] => []
  | some (.text key), node :: rest => (key, node.value?) :: entries none rest
  | some .other, _ :: rest => entries none rest
  | _, node :: rest => entries (some node.key) rest

/-- The last of several entries with one key. -/
def lastEntries (entries : List (String × Option SettingsValue)) :
    List (String × Option SettingsValue) :=
  entries.foldr (fun entry later => if later.any (·.1 = entry.1) then later else entry :: later) []

/-- The node of a table, whose keys and values follow each other. -/
def ofEntries (nodes : List Node) : Node :=
  let known := lastEntries (entries none nodes)
  let values? : Option SettingsTable := known.mapM fun (key, value?) => do return (key, ← value?)
  ⟨.other, values?.map .table⟩

end Node

/-! ## Readers of nodes -/

/-- Anchors of a document. A name stands for the node that it was given to last. -/
structure Anchors where
  names : List (String × Nat)
  nodes : List (Nat × Node)
  deriving Repr

/-- Takes a node from the beginning of tokens. -/
abbrev NodeReader := StateT Anchors (StateT (List Token) Option)

namespace NodeReader

/-- The next token, without taking it. -/
def peek : NodeReader Token := do return (← getThe (List Token)).headD .streamEnd

/-- Takes a token. -/
def skip : NodeReader Unit := modifyThe (List Token) (·.drop 1)

/-- Takes a token, if it is the next one. -/
def took (token : Token) : NodeReader Bool := do
  if (← peek) = token then
    skip
    return true
  else return false

/-- What stands in front of a node. -/
structure Properties where
  anchor : Option Nat
  tag : Option (Option String)

/-- Gives a name to the node that follows. -/
def nameNext (name : String) : NodeReader Nat := fun anchors =>
  let number := anchors.names.length
  pure (number, { anchors with names := (name, number) :: anchors.names })

/-- Takes an anchor and a tag, in any order. -/
def properties : NodeReader Properties := do
  match ← peek with
  | .anchor name => do
    skip
    let number ← nameNext name
    match ← peek with
    | .tag tag => do
      skip
      return ⟨some number, some tag⟩
    | _ => return ⟨some number, none⟩
  | .tag tag => do
    skip
    match ← peek with
    | .anchor name => do
      skip
      return ⟨some (← nameNext name), some tag⟩
    | _ => return ⟨none, some tag⟩
  | _ => return ⟨none, none⟩

/-- The node that a name stands for. A node does not contain itself. -/
def reference (name : String) : NodeReader Node := do
  let anchors ← get
  match anchors.names.lookup name with
  | some number => return (anchors.nodes.lookup number).getD .invalid
  | none => failure

/-- Takes a node, or none in front of some tokens. -/
def nodeUnless (absent : List Token) (node : NodeReader Node) : NodeReader Node := do
  if absent.contains (← peek) then return .null else node

/-- Takes the elements of a list, whose dashes begin a block of their own. -/
def blockElements (node : NodeReader Node) : Nat → NodeReader (List Node)
  | 0 => failure
  | fuel + 1 => do
    if ← took .blockEnd then return []
    if !(← took .dash) then failure
    let head ← nodeUnless [.dash, .blockEnd] node
    return head :: (← blockElements node fuel)

/-- Takes the elements of a list, whose dashes stand below the keys of the table around it. -/
def plainElements (node : NodeReader Node) : Nat → NodeReader (List Node)
  | 0 => failure
  | fuel + 1 => do
    if !(← took .dash) then return []
    let head ← nodeUnless [.dash, .key, .value, .blockEnd] node
    return head :: (← plainElements node fuel)

/-- Takes the keys and values of a block. -/
def blockEntries (node : NodeReader Node) : Nat → NodeReader (List Node)
  | 0 => failure
  | fuel + 1 => do
    if ← took .blockEnd then return []
    let part := nodeUnless [.key, .value, .blockEnd] node
    let key ← if ← took .key then part else
      if (← peek) = .value then pure .null else failure
    let value ← if ← took .value then part else pure .null
    return key :: value :: (← blockEntries node fuel)

/-- Takes an element of a flow list that is a table of one entry. -/
def flowPair (node : NodeReader Node) : NodeReader Node := do
  let absent : List Token := [.value, .comma, .flowListEnd]
  let key ← if absent.contains (← peek) then skip *> pure .null else node
  let value ← if ← took .value then nodeUnless [.comma, .flowListEnd] node else pure .null
  return .ofEntries [key, value]

/-- Takes the elements of a flow list. -/
def flowElements (node : NodeReader Node) (isFirst : Bool) : Nat → NodeReader (List Node)
  | 0 => failure
  | fuel + 1 => do
    if ← took .flowListEnd then return []
    if !isFirst then
      if !(← took .comma) then failure
    if ← took .flowListEnd then return []
    let head ← if ← took .key then flowPair node else node
    return head :: (← flowElements node false fuel)

/-- Takes the key and the value of an entry of a flow table. -/
def flowEntry (node : NodeReader Node) : NodeReader (List Node) := do
  let value : NodeReader Node := do
    if ← took .value then nodeUnless [.comma, .flowTableEnd] node else return .null
  if ← took .key then
    let key ← nodeUnless [.value, .comma, .flowTableEnd] node
    return [key, ← value]
  else if (← peek) = .value then return [.null, ← value]
  else return [← node, .null]

/-- Takes the entries of a flow table. -/
def flowEntries (node : NodeReader Node) (isFirst : Bool) : Nat → NodeReader (List Node)
  | 0 => failure
  | fuel + 1 => do
    if ← took .flowTableEnd then return []
    if !isFirst then
      if !(← took .comma) then failure
    if ← took .flowTableEnd then return []
    let head ← flowEntry node
    return head ++ (← flowEntries node false fuel)

/-- Takes a node with others inside it up to a depth. A block may begin where `inBlock` says so, and
a list without a block of its own where `inTable` does. -/
def nodeWithin : Nat → (inBlock inTable : Bool) → NodeReader Node
  | 0, _, _ => failure
  | depth + 1, inBlock, inTable => do
    let length := (← getThe (List Token)).length + 1
    let flowNode := nodeWithin depth false false
    if let .reference name ← peek then
      skip
      return ← reference name
    let properties ← properties
    let content : NodeReader Node := do
      match ← peek with
      | .scalar isPlain content => do
        skip
        if !isPlain then return .text content
        else return properties.tag.elim (.ofPlain content) (.ofTagged · content)
      | .flowList => do
        skip
        return .ofElements (← flowElements flowNode true length)
      | .flowTable => do
        skip
        return .ofEntries (← flowEntries flowNode true length)
      | .dash =>
        if inTable then return .ofElements (← plainElements (nodeWithin depth true false) length)
        else absent properties
      | .blockList =>
        if inBlock then do
          skip
          return .ofElements (← blockElements (nodeWithin depth true false) length)
        else absent properties
      | .blockTable =>
        if inBlock then do
          skip
          return .ofEntries (← blockEntries (nodeWithin depth true true) length)
        else absent properties
      | _ => absent properties
    let node ← content
    if let some number := properties.anchor then
      modify fun anchors => { anchors with nodes := (number, node) :: anchors.nodes }
    return node
where
  /-- The empty scalar behind an anchor or a tag. -/
  absent (properties : Properties) : NodeReader Node :=
    match properties.tag, properties.anchor with
    | some tag, _ => return .ofTagged tag ""
    | none, some _ => return .ofPlain ""
    | none, none => failure

/-- Takes a node. -/
def node : NodeReader Node := do
  nodeWithin ((← getThe (List Token)).length + 1) true false

end NodeReader

/-! ## Documents -/

namespace NodeReader

/-- Takes directives. -/
def directives : Nat → NodeReader Unit
  | 0 => return
  | fuel + 1 => do
    if ← took .directive then directives fuel

/-- Takes what ends documents. -/
def documentEnds : Nat → NodeReader Unit
  | 0 => return
  | fuel + 1 => do
    if ← took .documentEnd then documentEnds fuel

/-- Takes a document that begins with a mark. -/
def markedDocument : NodeReader Node := do
  directives (← getThe (List Token)).length
  if !(← took .documentStart) then failure
  nodeUnless [.directive, .documentStart, .documentEnd, .streamEnd] node

/-- Takes documents up to the end. Only the first one may begin without a mark. -/
def documents (isFirst : Bool) : Nat → NodeReader (List Node)
  | 0 => failure
  | fuel + 1 => do
    if !isFirst then documentEnds (← getThe (List Token)).length
    match ← peek with
    | .streamEnd => return []
    | next => do
      let isMarked := !isFirst || next = .directive || next = .documentStart
      let root ← if isMarked then markedDocument else node
      discard (took .documentEnd)
      modify ({ · with names := [], nodes := [] })
      return root :: (← documents false fuel)

end NodeReader

/-- The value of a text with one document, or none. -/
def document? (source : String) : Option SettingsValue := do
  let tokens ← Token.ofDocument? source
  let ((roots, _), _) ← NodeReader.documents true (tokens.length + 1) ⟨[], []⟩ tokens
  match roots with
  | [] => return .table []
  | [root] => root.value?
  | _ => none

end RouteRegistrar.Settings.Yaml
