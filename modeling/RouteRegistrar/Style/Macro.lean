import RouteRegistrar.Style.Attribute

/-!
# Printed macro calls

The arguments of a macro are plain tokens. Which of them have a space between them is decided by an
automaton that knows how such arguments usually look. The rules of a macro definition are read one
by one: what is matched, an arrow and what is written for it.
-/

namespace RouteRegistrar.Style

open Document

/-! ## Tokens -/

/-- Words that do not go together with parentheses behind them. -/
def macroKeywords : List String := [
  "as", "async", "await", "box", "break", "const", "continue", "crate", "dyn", "else", "enum",
  "extern", "fn", "for", "if", "impl", "in", "let", "loop", "macro", "match", "mod", "move", "mut",
  "pub", "ref", "return", "static", "struct", "trait", "type", "unsafe", "use", "where", "while",
  "yield"]

/-- What the last tokens of a macro were. -/
inductive MacroState where
  | start
  | dollar
  | dollarCrate
  | dollarIdent
  | dollarIdentColon
  | dollarParen
  | dollarParenSeparator
  | pound
  | poundBang
  | dot
  | colon
  | twoColons
  | ident
  | identBang
  | brackets
  | other
  deriving DecidableEq

/-- Whether a token takes a space in front of it, and the state behind it, where neither depends on
what came earlier than the last tokens. -/
def macroStepOther (matcher : Bool) (state : MacroState) : Token → Bool × MacroState
  | .group .brace _ => (true, .other)
  | .group _ _ => (true, .brackets)
  | .ident text =>
    if macroKeywords.contains text then (true, .other)
    else (state ≠ .dot && state ≠ .twoColons, .ident)
  | .literal text => (state ≠ .dot, if text.endsWith "." then .other else .ident)
  | .punct c spacing =>
    if c = ',' || c = ';' then (false, .other)
    else if c = '.' && !matcher then (state ≠ .ident && state ≠ .brackets, .dot)
    else if c = ':' && spacing = .joint then (state ≠ .ident && state ≠ .dollarCrate, .colon)
    else if c = '$' then (true, .dollar)
    else if c = '#' then (true, .pound)
    else (true, .other)

/-- Whether a token of a macro takes a space in front of it, and the state behind it. -/
def macroStep (matcher : Bool) (state : MacroState) (token : Token) : Bool × MacroState :=
  match state, token with
  | .dollar, .ident text =>
    (false, if matcher then .dollarIdent else if text = "crate" then .dollarCrate else .other)
  | .dollarIdent, .punct ':' .alone => (false, .dollarIdentColon)
  | .dollarIdentColon, .ident _ => (false, .other)
  | .dollarParen, .punct '+' .alone => (false, .other)
  | .dollarParen, .punct '*' .alone => (false, .other)
  | .dollarParen, .punct '?' .alone => (false, .other)
  | .dollarParen, .ident _ => (false, .dollarParenSeparator)
  | .dollarParen, .literal _ => (false, .dollarParenSeparator)
  | .dollarParen, .punct _ .joint => (false, .dollarParen)
  | .dollarParen, .punct _ .alone => (false, .dollarParenSeparator)
  | .dollarParenSeparator, .punct '+' _ => (false, .other)
  | .dollarParenSeparator, .punct '*' _ => (false, .other)
  | .pound, .punct '!' _ => (false, .poundBang)
  | .dollar, .group .parenthesis _ => (false, .dollarParen)
  | .pound, .group .bracket _ => (false, .other)
  | .poundBang, .group .bracket _ => (false, .other)
  | .ident, .group .parenthesis _ => (false, .brackets)
  | .ident, .group .bracket _ => (false, .brackets)
  | .ident, .punct '!' .alone => (false, .identBang)
  | .identBang, .group .parenthesis _ => (false, .other)
  | .identBang, .group .bracket _ => (false, .other)
  | .colon, .punct ':' _ => (false, .twoColons)
  | _, _ => macroStepOther matcher state token

/-- Whether a token keeps the next one close. -/
def keepsClose : Token → Bool
  | .punct _ .joint => true
  | .punct '$' _ => true
  | _ => false

/-- What stands in front of a token. -/
def macroGap (isClose needsSpace : Bool) (token : Token) : Document :=
  if isClose then empty
  else if needsSpace then space
  else match token with
    | .punct '.' _ => zeroBreak
    | _ => empty

mutual

/-- A token of a macro. -/
def macroToken (matcher : Bool) : Token → Document
  | .ident text => text
  | .literal text => text
  | .punct c _ => c.toString
  | .group .parenthesis content => cat ["(", macroTokens matcher .start true content, ")"]
  | .group .bracket content => cat ["[", macroTokens matcher .start true content, "]"]
  | .group .brace [] => "\x7b\x7d"
  | .group .brace (token :: rest) =>
    cat ["\x7b", space, macroTokens matcher .start true (token :: rest), space, "\x7d"]

/-- The tokens of a macro behind a state. -/
def macroTokens (matcher : Bool) (state : MacroState) (isClose : Bool) : List Token → Document
  | [] => empty
  | token :: rest =>
    let (needsSpace, next) := macroStep matcher state token
    cat [macroGap isClose needsSpace token, macroToken matcher token,
      macroTokens matcher next (keepsClose token) rest]

end

/-- Tokens of a macro in a box of their own. -/
def macroBody (matcher : Bool) (edge : Document) (content : List Token) : Document :=
  onlyIf (!content.isEmpty) (consistent step
    [outdented [edge, inconsistent 0 [macroTokens matcher .start true content], edge]])

/-! ## Definitions -/

/-- The opening and the closing bracket. -/
def brackets : Delimiter → Document × Document
  | .parenthesis => ("(", ")")
  | .bracket => ("[", "]")
  | .brace => ("\x7b", "\x7d")

/-- The rules of a macro definition up to their end. Nothing if they are no rules. -/
def macroRuleList? : List Token → Option Document
  | [] => some empty
  | .group delimiter matched :: .punct '=' .joint :: .punct '>' .alone :: .group _ content ::
      rest =>
    let (opening, closing) := brackets delimiter
    let rule := cat [opening, macroBody true zeroBreak matched, closing, " =", ">", " \x7b",
      neverBreak, macroBody false hardBreak content, "\x7d", ";", hardBreak]
    match rest with
    | [] => some rule
    | .punct ';' .alone :: more => (macroRuleList? more).map fun others => cat [rule, others]
    | _ => none
  | [.group delimiter matched] =>
    let (opening, closing) := brackets delimiter
    some (cat [opening, macroBody true zeroBreak matched, closing, hardBreak])
  | [.group delimiter matched, .punct '=' .joint] =>
    let (opening, closing) := brackets delimiter
    some (cat [opening, macroBody true zeroBreak matched, closing, " =", hardBreak])
  | [.group delimiter matched, .punct '=' .joint, .punct '>' .alone] =>
    let (opening, closing) := brackets delimiter
    some (cat [opening, macroBody true zeroBreak matched, closing, " =", ">", hardBreak])
  | _ => none

/-- The definition of a macro by rules. -/
def macroRules? (name : String) (content : List Token) : Option Document :=
  (macroRuleList? content).map fun rules =>
    cat ["macro_rules! ", name, " \x7b", consistent step [outdented [hardBreakIfMore, rules]],
      "\x7d"]

/-- Whether the call of a macro defines one by rules. -/
def isMacroDefinition (name : Tree) : Bool :=
  match name with
  | .node .path [colons, .node .segment [.word text, _]] =>
    colons.isAbsent && text = "macro_rules"
  | _ => false

/-! ## Calls -/

/-- The arguments of a macro in their brackets. -/
def macroArguments : Tree → Document
  | .tokens [.group .parenthesis content] => cat ["(", macroBody false zeroBreak content, ")"]
  | .tokens [.group .bracket content] => cat ["[", macroBody false zeroBreak content, "]"]
  | .tokens [.group .brace content] => cat [" \x7b", macroBody false hardBreak content, "\x7d"]
  | _ => empty

variable (sub : Printer)

/-- The call of a macro. -/
def macroCall : Tree → Document
  | .node .macroCall [name, _, content] =>
    cat [path sub .bare name, "!", macroArguments content]
  | _ => empty

/-- The call of a macro as an item, possibly with a name that it defines. Braces take no
semicolon. -/
def macroItem (name defined content : Tree) : Document :=
  let plain := cat [path sub .bare name, "!", ifPresent defined [" ", leaf defined],
    macroArguments content, onlyIf (!Grammar.isBraced content) ";"]
  match isMacroDefinition name, defined, content with
  | true, .word text, .tokens [.group _ rules] => (macroRules? text rules).getD plain
  | _, _, _ => plain

end RouteRegistrar.Style
