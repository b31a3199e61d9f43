/-!
# Token trees

Source text is a sequence of token trees: identifiers, punctuation characters, literals and
delimited groups. A punctuation character knows whether it is glued to the next one.

The text of a sequence has one space between two tokens, except behind glued punctuation.
-/

namespace RouteRegistrar

/-- The three pairs of brackets. -/
inductive Delimiter where
  | parenthesis
  | bracket
  | brace
  deriving DecidableEq, Repr

/-- Whether a punctuation character is glued to the token behind it. -/
inductive Spacing where
  | alone
  | joint
  deriving DecidableEq, Repr

/-- A token tree. The text of an identifier includes a raw marker `r#`, the text of a literal is the
text written in the source. -/
inductive Token where
  | ident (text : String)
  | punct (char : Char) (spacing : Spacing)
  | literal (text : String)
  | group (delimiter : Delimiter) (content : List Token)
  deriving Repr

namespace Token

/-! ## Equality -/

mutual

/-- Whether two tokens are the same. -/
def decEq : (t u : Token) → Decidable (t = u)
  | ident a, ident b => decidable_of_iff (a = b) (by rw [ident.injEq])
  | punct c s, punct d r => decidable_of_iff (c = d ∧ s = r) (by rw [punct.injEq])
  | literal a, literal b => decidable_of_iff (a = b) (by rw [literal.injEq])
  | group d content, group e other =>
    have := decEqAll content other
    decidable_of_iff (d = e ∧ content = other) (by rw [group.injEq])
  | ident _, punct .. | ident _, literal _ | ident _, group .. => isFalse nofun
  | punct .., ident _ | punct .., literal _ | punct .., group .. => isFalse nofun
  | literal _, ident _ | literal _, punct .. | literal _, group .. => isFalse nofun
  | group .., ident _ | group .., punct .. | group .., literal _ => isFalse nofun

/-- Whether two sequences of tokens are the same. -/
def decEqAll : (ts us : List Token) → Decidable (ts = us)
  | [], [] => isTrue rfl
  | t :: ts, u :: us =>
    have := decEq t u
    have := decEqAll ts us
    decidable_of_iff (t = u ∧ ts = us) (by rw [List.cons.injEq])
  | [], _ :: _ | _ :: _, [] => isFalse nofun

end

instance : DecidableEq Token := decEq

/-! ## Building tokens -/

/-- The characters of an operator: glued inside, alone at its end. -/
def puncts : List Char → List Token
  | [] => []
  | [c] => [punct c .alone]
  | c :: d :: rest => punct c .joint :: puncts (d :: rest)

/-- The tokens of an operator. -/
def operator (text : String) : List Token := puncts text.toList

/-- The tokens of a lifetime, given without its quote. -/
def lifetime (name : String) : List Token := [punct '\'' .joint, ident name]

/-- A group of one kind of brackets. -/
def parens (content : List Token) : Token := group .parenthesis content

/-- A group of one kind of brackets. -/
def brackets (content : List Token) : Token := group .bracket content

/-- A group of one kind of brackets. -/
def braces (content : List Token) : Token := group .brace content

/-! ## Text -/

/-- Glued punctuation takes no space behind it. -/
def isJoint : Token → Bool
  | punct _ .joint => true
  | _ => false

mutual

/-- The text of a token. Nonempty braces have inner spaces. -/
def text : Token → String
  | ident text => text
  | punct c _ => c.toString
  | literal text => text
  | group .parenthesis content => "(" ++ textAll content ++ ")"
  | group .bracket content => "[" ++ textAll content ++ "]"
  | group .brace [] => "\x7b \x7d"
  | group .brace (t :: rest) => "\x7b " ++ textAll (t :: rest) ++ " \x7d"

/-- The text of a sequence of tokens. -/
def textAll : List Token → String
  | [] => ""
  | t :: rest => t.text ++ textAfter (isJoint t) rest

/-- The text of what follows a token. -/
def textAfter (glued : Bool) : List Token → String
  | [] => ""
  | t :: rest => (if glued then "" else " ") ++ t.text ++ textAfter (isJoint t) rest

end

mutual

/-- The number of tokens in a tree, a group counting as its two brackets. -/
def count : Token → Nat
  | group _ content => countAll content + 2
  | _ => 1

/-- The number of tokens in a sequence. -/
def countAll : List Token → Nat
  | [] => 0
  | t :: rest => t.count + countAll rest

end

end Token

end RouteRegistrar
