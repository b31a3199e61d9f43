import RouteRegistrar.Grammar.Tree
import RouteRegistrar.Text.CharClass

/-!
# Parsers

A parser takes tokens from the front of a sequence and returns what is left, or fails. Decisions are
made by looking at the tokens in front, never by what comes behind, except where a rule tries one
form and falls back to another.

A group is parsed on its own and has to be used up. A repetition ends by itself, because each round
has to leave fewer tokens.
-/

namespace RouteRegistrar

/-- A parser of syntax that takes tokens from the front. -/
structure Parser (α : Type) where
  run : List Token → Option (α × List Token)
  /-- What is left is the end of what there was. -/
  isSuffix {ts rest : List Token} {value : α} : run ts = some (value, rest) → rest <:+ ts

namespace Parser

open Token

variable {α β : Type}

instance : CoeFun (Parser α) fun _ => List Token → Option (α × List Token) := ⟨run⟩

/-! ## Sequences of parsers -/

/-- Takes nothing. -/
def give (value : α) : Parser α where
  run ts := some (value, ts)
  isSuffix h := by
    cases h
    exact List.suffix_rfl

/-- One parser after another. -/
def andThen (parser : Parser α) (next : α → Parser β) : Parser β where
  run ts := (parser ts).bind fun (value, rest) => next value rest
  isSuffix h := by
    obtain ⟨⟨value, rest⟩, hparser, hnext⟩ := Option.bind_eq_some_iff.mp h
    exact ((next value).isSuffix hnext).trans (parser.isSuffix hparser)

/-- The first form if it can be read, the second form otherwise. -/
def either (first second : Parser α) : Parser α where
  run ts := (first ts).or (second ts)
  isSuffix h := by
    rcases Option.or_eq_some_iff.mp h with hfirst | ⟨-, hsecond⟩
    · exact first.isSuffix hfirst
    · exact second.isSuffix hsecond

instance : Monad Parser where
  pure := give
  bind := andThen

instance : Alternative Parser where
  failure := ⟨fun _ => none, nofun⟩
  orElse first second := either first (second ())

/-- The tokens that are left. -/
def ahead : Parser (List Token) where
  run ts := some (ts, ts)
  isSuffix h := by
    cases h
    exact List.suffix_rfl

/-- One token that is accepted, as what it is accepted for. -/
def token (accept : Token → Option α) : Parser α where
  run
    | t :: rest => (accept t).map (·, rest)
    | [] => none
  isSuffix {ts rest value} h := by
    cases ts with
    | nil => cases h
    | cons t ts =>
      obtain ⟨_, -, hpair⟩ := Option.map_eq_some_iff.mp h
      cases hpair
      exact List.suffix_cons ..

/-! ## Looking ahead -/

/-- The tokens behind the first one. A lifetime counts as one token. -/
def skip : List Token → List Token
  | .punct '\'' .joint :: .ident _ :: rest => rest
  | _ :: rest => rest
  | [] => []

/-- The tokens behind the first two. -/
def skipTwo (ts : List Token) : List Token := skip (skip ts)

/-- Whether the next characters are those of an operator, glued inside. -/
def startsChars : List Char → List Token → Bool
  | [], _ => true
  | [c], .punct d _ :: _ => c = d
  | c :: cs, .punct d .joint :: rest => c = d && startsChars cs rest
  | _, _ => false

/-- Whether an operator comes next, or a longer one that begins with it. -/
def startsOp (text : String) (ts : List Token) : Bool := startsChars text.toList ts

/-- Whether one of several operators comes next. -/
def startsSomeOp (texts : List String) (ts : List Token) : Bool := texts.any (startsOp · ts)

/-- Whether a certain word comes next. -/
def startsWord (text : String) : List Token → Bool
  | .ident found :: _ => found = text
  | _ => false

/-- Whether one of several words comes next. -/
def startsSomeWord (texts : List String) (ts : List Token) : Bool := texts.any (startsWord · ts)

/-- Whether any word comes next. -/
def startsAnyWord : List Token → Bool
  | .ident _ :: _ => true
  | _ => false

/-- Words that are no identifiers. -/
def reserved : List String := [
  "_", "abstract", "as", "async", "await", "become", "box", "break", "const", "continue",
  "crate", "do", "dyn", "else", "enum", "extern", "false", "final", "fn", "for", "if", "impl",
  "in", "let", "loop", "macro", "match", "mod", "move", "mut", "override", "priv", "pub", "ref",
  "return", "Self", "self", "static", "struct", "super", "trait", "true", "try", "type",
  "typeof", "unsafe", "unsized", "use", "virtual", "where", "while", "yield"]

/-- Whether an identifier comes next. -/
def startsIdent : List Token → Bool
  | .ident text :: _ => !reserved.contains text
  | _ => false

/-- Whether a lifetime comes next. -/
def startsLifetime : List Token → Bool
  | .punct '\'' .joint :: .ident _ :: _ => true
  | _ => false

/-- Whether a group in certain brackets comes next. -/
def startsGroup (delimiter : Delimiter) : List Token → Bool
  | .group found _ :: _ => found = delimiter
  | _ => false

/-- Whether a string literal comes next. -/
def startsString : List Token → Bool
  | .literal text :: _ => text.toList.head? = some '"' || text.toList.head? = some 'r'
  | _ => false

/-- Whether a literal text is a number. -/
def isNumber (text : String) : Bool := text.toList.head?.any Text.isDigit

/-- Whether a literal comes next. A number may have a sign. -/
def startsLiteral : List Token → Bool
  | .literal _ :: _ => true
  | .ident text :: _ => text = "true" || text = "false"
  | .punct '-' _ :: .literal text :: _ => isNumber text
  | _ => false

/-! ## Single tokens -/

/-- What a test says of the tokens in front. -/
def look (test : List Token → Bool) : Parser Bool := return test (← ahead)

/-- Fails unless a test holds of the tokens in front. -/
def require (test : Bool) : Parser Unit := if test then pure () else failure

/-- A certain word. -/
def word (text : String) : Parser Tree :=
  token fun
    | .ident found => if found = text then some (.word text) else none
    | _ => none

/-- An identifier or a reserved word. -/
def anyWord : Parser Tree :=
  token fun
    | .ident text => some (.word text)
    | _ => none

/-- An identifier. -/
def ident : Parser Tree := do
  require (startsIdent (← ahead))
  anyWord

/-- An operator. -/
def op (text : String) : Parser Tree where
  run ts := if startsOp text ts then some (.op text, ts.drop text.toList.length) else none
  isSuffix {ts rest value} h := by
    split at h
    · cases h
      exact List.drop_suffix ..
    · cases h

/-- A certain punctuation character. -/
def punctuation (c : Char) : Parser Unit :=
  token fun
    | .punct found _ => if found = c then some () else none
    | _ => none

/-- A lifetime. -/
def lifetime : Parser Tree := do
  require (startsLifetime (← ahead))
  punctuation '\''
  token fun
    | .ident name => some (.lifetime name)
    | _ => none

/-- A literal, which is two leaves if it has a sign. -/
def literal : Parser (List Tree) := do
  require (startsLiteral (← ahead))
  match ← ahead with
  | .punct _ _ :: _ =>
    punctuation '-'
    token fun
      | .literal text => some [.op "-", .literal text]
      | _ => none
  | _ =>
    token fun
      | .literal text => some [.literal text]
      | .ident text => some [.word text]
      | _ => none

/-- A group of any brackets, kept as tokens. -/
def rawGroup : Parser Tree :=
  token fun
    | .group delimiter content => some (.tokens [.group delimiter content])
    | _ => none

/-! ## Combinations -/

/-- A child that is absent unless a test holds. -/
def optional (test : List Token → Bool) (parser : Parser Tree) : Parser Tree := do
  if test (← ahead) then parser else return .absent

/-- A child that is absent where another one is. -/
def follow (mark : Tree) (parser : Parser Tree) : Parser Tree :=
  if mark.isAbsent then pure .absent else parser

/-- A word that may be missing. -/
def optionalWord (text : String) : Parser Tree := optional (startsWord text) (word text)

/-- An operator that may be missing. -/
def optionalOp (text : String) : Parser Tree := optional (startsOp text) (op text)

/-- A lifetime that may be missing. -/
def optionalLifetime : Parser Tree := optional startsLifetime lifetime

/-- Whether a parser would succeed. -/
def accepts (parser : Parser α) : Parser Bool := look fun ts => (parser ts).isSome

/-- What a parser finds in a group in certain brackets, which it has to use up. -/
def inside (delimiter : Delimiter) (parser : Parser α) : Parser α :=
  token fun
    | .group found content =>
      if found = delimiter then
        match parser content with
        | some (value, []) => some value
        | _ => none
      else none
    | _ => none

/-- A group in certain brackets, whose content a parser has to use up. -/
def within (delimiter : Delimiter) (parser : Parser (List Tree)) : Parser Tree := do
  return .group delimiter (← inside delimiter parser)

/-- The tokens between an earlier position and here, as they are. -/
def since (start : List Token) : Parser Tree := do
  return .node .verbatim [.tokens (start.take (start.length - (← ahead).length))]

/-- What a parser takes, as plain tokens. -/
def verbatim (parser : Parser Unit) : Parser Tree := do
  let start ← ahead
  parser
  since start

/-- Repeats a step as long as it asks for another round, which has to leave fewer tokens. There are
at most `limit` rounds. -/
def rounds (step : α → Parser (α × Bool)) : Nat → α → Parser α
  | 0, _ => failure
  | limit + 1, value => do
    let before ← ahead
    let (next, more) ← step value
    if more then
      require ((← ahead).length < before.length)
      rounds step limit next
    else return next

/-- Repeats a step as long as it asks for another round. -/
def iterate (step : α → Parser (α × Bool)) (value : α) : Parser α := do
  rounds step ((← ahead).length + 1) value

/-- Trees as long as a test holds. -/
def many (test : List Token → Bool) (parser : Parser Tree) : Parser (List Tree) := do
  let found ← iterate (fun done => do
    if test (← ahead) then return ((← parser) :: done, true) else return (done, false)) []
  return found.reverse

/-- Trees up to the end. -/
def all (parser : Parser Tree) : Parser (List Tree) := many (!·.isEmpty) parser

/-- Items and separators. The sequence ends where `stop` holds in front of an item, or where no
separator follows an item. -/
def listUntil (stop : List Token → Bool) (separator : String) (parser : Parser Tree) :
    Parser Tree := do
  let found ← iterate (fun done => do
    if stop (← ahead) then return (done, false)
    let item ← parser
    if startsOp separator (← ahead) then return ((← op separator) :: item :: done, true)
    else return (item :: done, false)) []
  return .node .punctuated found.reverse

/-- Items and separators up to the end. Between two items there has to be a separator. -/
def separated (separator : String) (parser : Parser Tree) : Parser Tree :=
  listUntil List.isEmpty separator parser

/-- One item or more, with a separator between two. Another item has to follow where `more`
holds. -/
def chain (more : List Token → Bool) (separator : String) (parser : Parser Tree) :
    Parser (List Tree) := do
  let first ← parser
  let found ← iterate (fun done => do
    if more (← ahead) then
      let between ← op separator
      let item ← parser
      return (item :: between :: done, true)
    else return (done, false)) [first]
  return found.reverse

/-- Items and commas in front of a closing angle bracket. -/
def angleList (parser : Parser Tree) : Parser Tree := listUntil (startsOp ">") "," parser

/-- Joins two lists: the items of the second follow those of the first with a comma between. -/
def joinLists (first second : List Tree) : List Tree :=
  if first.isEmpty || second.isEmpty || first.length % 2 = 0 then first ++ second
  else first ++ .op "," :: second

/-- Splits a list into the items of a class and the others, each with the comma behind it. -/
def splitList (test : Tree → Bool) : List Tree → List Tree × List Tree
  | [] => ([], [])
  | [item] => if test item then ([item], []) else ([], [item])
  | item :: comma :: rest =>
    let (inside, outside) := splitList test rest
    if test item then (item :: comma :: inside, outside) else (inside, item :: comma :: outside)

/-- Moves the items of a class to the front of a list. -/
def moveToFront (test : Tree → Bool) (list : Tree) : Tree :=
  let (inside, outside) := splitList test list.children
  .node .punctuated (joinLists inside outside)

end Parser

end RouteRegistrar
