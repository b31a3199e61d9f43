import Mathlib.Data.List.TakeWhile
import RouteRegistrar.Token.Lexer

/-!
# Names of tokens

Every identifier of a token sequence is made of characters that identifiers may hold, possibly
behind the mark of a raw identifier. So a name contains no blanks and no colons, whatever text it
was read from.
-/

namespace RouteRegistrar

open Text

/-! ## Characters of names -/

/-- A character of an identifier, or of the mark of a raw one. -/
def Text.isNameChar (c : Char) : Bool := isIdStart c || isIdContinue c || c = '#'

/-- A name is made of such characters. -/
def Text.IsName (name : String) : Prop := ∀ c ∈ name.toList, isNameChar c = true

-- Only the characters of the name are looked at, not all characters that there are.
instance (name : String) : Decidable (Text.IsName name) :=
  List.decidableBAll (fun c => isNameChar c = true) name.toList

namespace Text

/-- The code points of a range are between its ends. -/
theorem Ranges.mem_of_contains {ranges : Ranges} {code : Nat} (h : ranges.contains code = true) :
    code ∈ ranges.flatMap fun (first, last) => List.range' first (last + 1 - first) := by
  induction ranges with
  | nil => cases h
  | cons range rest ih =>
    obtain ⟨first, last⟩ := range
    rw [Ranges.contains] at h
    split at h
    case isTrue => cases h
    case isFalse hfirst =>
      rw [List.flatMap_cons, List.mem_append]
      -- The code is in the first range or in a later one.
      rcases Bool.or_eq_true .. ▸ h with hlast | hrest
      · left
        rw [List.mem_range'_1]
        have := of_decide_eq_true hlast
        omega
      · exact .inr (ih hrest)

/-- No blank is a character of a name. -/
theorem isBlank_of_isNameChar {c : Char} (h : isNameChar c = true) : isBlank c = false := by
  -- There are few blanks, so all of them can be looked up among the characters of names.
  have hcodes : ∀ code ∈ blankRanges.flatMap fun (first, last) =>
      List.range' first (last + 1 - first), (Table.idStart.contains code ||
        Table.idContinue.contains code || code = '#'.toNat) = false := by
    decide +kernel
  cases hblank : isBlank c with
  | false => rfl
  | true =>
    have hnone := hcodes c.toNat (Ranges.mem_of_contains hblank)
    rw [Bool.or_eq_false_iff, Bool.or_eq_false_iff] at hnone
    obtain ⟨⟨hstart, hcontinue⟩, hmark⟩ := hnone
    have hc : c = '#' := by simpa [isNameChar, isIdStart, isIdContinue, hstart, hcontinue] using h
    subst hc
    cases hmark

/-- The digits of a number may continue an identifier. -/
theorem isIdContinue_of_mem_toDigits {n : Nat} {c : Char} (h : c ∈ Nat.toDigits 10 n) :
    isIdContinue c = true := by
  -- The ten digits are looked up in the table.
  have hcodes : ∀ code ∈ List.range' '0'.toNat 10, Table.idContinue.contains code = true := by
    decide +kernel
  have hdigit := Nat.isDigit_of_mem_toDigits (by omega) (by omega) h
  apply hcodes
  rw [List.mem_range'_1]
  simp only [Char.isDigit, Bool.and_eq_true, decide_eq_true_eq, ge_iff_le,
    UInt32.le_iff_toNat_le] at hdigit
  exact ⟨hdigit.1, Nat.lt_succ_of_le hdigit.2⟩

/-- A colon is no character of a name. -/
theorem ne_colon_of_isNameChar {c : Char} (h : isNameChar c = true) : c ≠ ':' := by
  rintro rfl
  revert h
  decide +kernel

end Text

namespace Token

/-! ## Tokens -/

/-- All identifiers of a token are names. -/
inductive Named : Token → Prop where
  | ident {text : String} : IsName text → Named (.ident text)
  | punct {c : Char} {spacing : Spacing} : Named (.punct c spacing)
  | literal {text : String} : Named (.literal text)
  | group {delimiter : Delimiter} {content : List Token} :
      (∀ t ∈ content, Named t) → Named (.group delimiter content)

/-! ## Reading names -/

theorem consumed_append (taken rest : List Char) : consumed (taken ++ rest) rest = taken := by
  simp [consumed]

/-- A word consists of characters of a name. -/
theorem exists_of_word? {input rest : List Char} (h : word? input = some rest) :
    ∃ name, input = name ++ rest ∧ ∀ c ∈ name, isNameChar c = true := by
  unfold word? at h
  split at h
  case h_1 => cases h
  case h_2 c more =>
    split at h
    case isTrue hstart =>
      cases h
      refine ⟨c :: more.takeWhile isIdContinue, ?_, ?_⟩
      · rw [List.cons_append, List.takeWhile_append_dropWhile]
      · intro d hd
        rcases List.mem_cons.mp hd with rfl | hd
        · simp [isNameChar, hstart]
        · simp [isNameChar, List.mem_takeWhile_imp hd]
    case isFalse => cases h

/-- An identifier is a word, possibly with the mark of a raw one in front. -/
theorem exists_of_ident? {input rest : List Char} (h : ident? input = some rest) :
    ∃ name, input = name ++ rest ∧ ∀ c ∈ name, isNameChar c = true := by
  unfold ident? at h
  split at h
  case h_1 more =>
    split at h
    case h_1 behind hword =>
      split at h
      case isTrue => cases h
      case isFalse =>
        cases h
        obtain ⟨name, rfl, hname⟩ := exists_of_word? hword
        -- The prefix of a raw name counts as part of it.
        have hmark : isNameChar 'r' = true ∧ isNameChar '#' = true := by decide +kernel
        exact ⟨'r' :: '#' :: name, rfl, List.forall_mem_cons.mpr
          ⟨hmark.1, List.forall_mem_cons.mpr ⟨hmark.2, hname⟩⟩⟩
    case h_2 => cases h
  case h_2 => exact exists_of_word? h

theorem isName_of_ident? {input rest : List Char} (h : ident? input = some rest) :
    IsName (String.ofList (consumed input rest)) := by
  obtain ⟨name, rfl, hname⟩ := exists_of_ident? h
  rw [consumed_append, IsName, String.toList_ofList]
  exact hname

/-! ## Reading tokens -/

theorem named_of_punct? {input rest : List Char} {t : Token} (h : punct? input = some (t, rest)) :
    t.Named := by
  unfold punct? at h
  repeat' split at h
  all_goals cases h
  all_goals exact .punct

theorem named_of_leaf? {input rest : List Char} {t : Token} (h : leaf? input = some (t, rest)) :
    t.Named := by
  unfold leaf? at h
  -- In the order in which a leaf is read; only an identifier has a name to check.
  split at h
  case h_1 =>
    cases h
    exact .literal
  case h_2 =>
    split at h
    case h_1 hpunct =>
      cases h
      exact named_of_punct? hpunct
    case h_2 =>
      split at h
      case h_1 hident =>
        cases h
        refine .ident (isName_of_ident? ?_)
        split at hident
        case isTrue => cases hident
        case isFalse => exact hident
      case h_2 =>
        split at h
        case isTrue =>
          cases h
          exact .literal
        case isFalse => cases h

/-- The name of a documentation attribute is a name. -/
theorem named_of_docTokens {text : List Char} {inner : Bool} :
    ∀ t ∈ docTokens text inner, t.Named := by
  have hdoc : IsName "doc" := by decide +kernel
  -- The text of the comment is in a literal, so `doc` is the only name.
  have hbrackets : (brackets [ident "doc", punct '=' .alone,
      literal (Quoted.literal (String.ofList text))]).Named := by
    apply Named.group
    simp only [List.mem_cons, List.not_mem_nil, or_false, forall_eq_or_imp, forall_eq]
    exact ⟨.ident hdoc, .punct, .literal⟩
  intro t ht
  cases inner <;>
    simp only [docTokens, Bool.false_eq_true, if_true, if_false, List.nil_append, List.cons_append,
      List.mem_cons, List.not_mem_nil, or_false] at ht
  · rcases ht with rfl | rfl
    · exact .punct
    · exact hbrackets
  · rcases ht with rfl | rfl | rfl
    · exact .punct
    · exact .punct
    · exact hbrackets

/-- A lexeme whose token is named. -/
inductive Lexeme.Named : Lexeme → Prop where
  | opening {delimiter : Delimiter} : Named (.opening delimiter)
  | closing {delimiter : Delimiter} : Named (.closing delimiter)
  | leaf {t : Token} : t.Named → Named (.leaf t)

theorem named_of_lexeme? {input rest : List Char} {found : List Lexeme}
    (h : lexeme? input = some (found, rest)) : ∀ l ∈ found, l.Named := by
  -- Where a lexeme is a leaf, it is the one that was read.
  have hleaf {f : Token × List Char → List Lexeme × List Char}
      (hf : ∀ pair, (f pair).1 = [.leaf pair.1]) (h : (leaf? input).map f = some (found, rest)) :
      ∀ l ∈ found, l.Named := by
    obtain ⟨⟨t, more⟩, ht, hpair⟩ := Option.map_eq_some_iff.mp h
    have hfound : found = [.leaf t] := (congrArg Prod.fst hpair).symm.trans (hf _)
    subst hfound
    simpa using Lexeme.Named.leaf (named_of_leaf? ht)
  unfold lexeme? at h
  split at h
  case h_1 =>
    cases h
    intro l hl
    obtain ⟨t, ht, rfl⟩ := List.mem_map.mp hl
    exact .leaf (named_of_docTokens t ht)
  case h_2 =>
    split at h
    case h_1 =>
      split at h
      case isTrue => exact hleaf (fun _ => rfl) h
      case isFalse =>
        cases h
        simpa using Lexeme.Named.opening
    case h_2 | h_3 =>
      cases h
      simpa using Lexeme.Named.opening
    case h_4 | h_5 | h_6 =>
      cases h
      simpa using Lexeme.Named.closing
    case h_7 => exact hleaf (fun _ => rfl) h

theorem named_of_lexemes {input : List Char} {found : List Lexeme}
    (h : lexemes input = some found) : ∀ l ∈ found, l.Named := by
  fun_induction lexemes input generalizing found with
  | case1 =>
    cases h
    simp
  | case2 => cases h
  | case3 input c cs hblanks between more hlexeme hless ih =>
    -- The lexemes at the beginning come in front of those of the rest.
    obtain ⟨behind, hbehind, rfl⟩ := Option.map_eq_some_iff.mp h
    intro l hl
    rcases List.mem_append.mp hl with hl | hl
    · exact named_of_lexeme? hlexeme l hl
    · exact ih hbehind l hl
  | case4 => cases h

/-- Nesting keeps tokens named. -/
theorem named_of_nest {found : List Lexeme} (hfound : ∀ l ∈ found, l.Named) :
    ∀ {stack : List (Delimiter × List Token)} {before ts : List Token},
      (∀ level ∈ stack, ∀ t ∈ level.2, t.Named) → (∀ t ∈ before, t.Named) →
      nest stack before found = some ts → ∀ t ∈ ts, t.Named := by
  induction found with
  | nil =>
    intro stack before ts _ hbefore h
    rw [nest] at h
    split at h
    · cases h
      simpa using hbefore
    · cases h
  | cons l rest ih =>
    intro stack before ts hstack hbefore h
    obtain ⟨hl, hrest⟩ := List.forall_mem_cons.mp hfound
    cases hl with
    | leaf ht => exact ih hrest hstack (List.forall_mem_cons.mpr ⟨ht, hbefore⟩) h
    | opening =>
      exact ih hrest (List.forall_mem_cons.mpr ⟨hbefore, hstack⟩) (by simp) h
    | closing =>
      -- The tokens of the bracket become the content of a group.
      unfold nest at h
      split at h
      case h_1 opened outer more =>
        obtain ⟨houter, hmore⟩ := List.forall_mem_cons.mp hstack
        split at h
        case isTrue hopened =>
          subst hopened
          have hgroup : (Token.group opened before.reverse).Named := .group (by simpa using hbefore)
          exact ih hrest hmore (List.forall_mem_cons.mpr ⟨hgroup, houter⟩) h
        case isFalse => cases h
      case h_2 => cases h

/-- **All identifiers of a text are names.** -/
theorem named_of_tokenize {text : String} {ts : List Token} (h : tokenize text = some ts) :
    ∀ t ∈ ts, t.Named := by
  obtain ⟨found, hfound, hnest⟩ := Option.bind_eq_some_iff.mp h
  exact named_of_nest (named_of_lexemes hfound) (by simp) (by simp) hnest

end Token

end RouteRegistrar
