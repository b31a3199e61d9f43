import RouteRegistrar.Proofs.Token.Names

/-!
# Identifiers as tokens

A text that is an identifier, raw or not, is read as one token. A word looks like many beginnings of
literals, so the other recognisers have to be ruled out one by one: strings and characters need a
quote, numbers begin with a digit, and neither is a character of an identifier.
-/

namespace RouteRegistrar.Token

open Text

/-- A text that is an identifier, raw or not. -/
def IsIdent (name : String) : Prop := ident? name.toList = some []

instance (name : String) : Decidable (IsIdent name) :=
  inferInstanceAs (Decidable (ident? name.toList = some []))

variable {input rest : List Char}

/-! ## What an identifier is not -/

/-- An identifier begins like a word. -/
theorem ne_cons_of_ident? (h : ident? input = some rest) {d : Char} (hd : isIdStart d = false)
    (more : List Char) : input ≠ d :: more := by
  rintro rfl
  have hword : word? (d :: more) = none := by
    simp [word?, hd]
  unfold ident? at h
  -- A raw identifier begins like the word behind its mark, with a letter.
  split at h
  case h_1 heq =>
    have hr : isIdStart 'r' = true := by decide +kernel
    rw [(List.cons.inj heq).1, hr] at hd
    cases hd
  case h_2 =>
    rw [hword] at h
    cases h

theorem exists_cons_of_ident? (h : ident? input = some rest) :
    ∃ c cs, input = c :: cs ∧ isIdStart c = true := by
  cases input with
  | nil => cases h
  | cons c cs =>
    refine ⟨c, cs, rfl, ?_⟩
    by_contra hstart
    exact ne_cons_of_ident? h (Bool.eq_false_iff.mpr hstart) cs rfl

/-- No quote stands in an identifier. -/
theorem not_mem_of_ident? (h : ident? input = some []) {d : Char} (hd : isNameChar d = false) :
    d ∉ input := by
  obtain ⟨name, rfl, hname⟩ := exists_of_ident? h
  intro hmem
  rw [List.append_nil] at hmem
  rw [hname d hmem] at hd
  cases hd

/-- A text that begins otherwise does not begin with a pattern. -/
theorem startsWith_eq_false {d : Char} {pattern : String} {more : List Char}
    (hpattern : pattern.toList = d :: more) (hinput : ∀ rest, input ≠ d :: rest) :
    startsWith pattern input = false := by
  rw [startsWith, hpattern]
  cases input with
  | nil => rfl
  | cons c cs =>
    have hne : c ≠ d := fun heq => hinput cs (by rw [heq])
    simp [List.isPrefixOf, Ne.symm hne]

/-! ## Literals -/

theorem rawStart_eq_none {kind : StringKind} (h : '"' ∉ input) : rawStart kind input = none := by
  unfold rawStart
  simp only
  split
  case h_1 more hdrop =>
    -- Behind the hashes a quote would have to come.
    have hmem : '"' ∈ input.drop (input.takeWhile (· = '#')).length := by
      rw [hdrop]
      exact List.mem_cons_self
    exact absurd (List.mem_of_mem_drop hmem) h
  case h_2 => rfl

theorem string?_eq_none (h : '"' ∉ input) : string? input = none := by
  -- Every kind of string has a quote, at its beginning or behind the marks of a raw one.
  unfold string?
  split
  case h_1 => simp at h
  case h_2 => rw [rawStart_eq_none (by simpa using h)]; rfl
  case h_3 => simp at h
  case h_4 => rw [rawStart_eq_none (by simpa using h)]; rfl
  case h_5 => simp at h
  case h_6 => rw [rawStart_eq_none (by simpa using h)]; rfl
  case h_7 => rfl

theorem char?_eq_none (h : '\'' ∉ input) : char? input = none := by
  unfold char?
  split
  case h_1 => simp at h
  case h_2 => simp at h
  case h_3 => rfl

theorem isDigit_of_isIdStart {c : Char} (h : isIdStart c = true) : isDigit c = false := by
  -- The ten digits are looked up in the table.
  have hcodes : ∀ code ∈ List.range' '0'.toNat 10, Table.idStart.contains code = false := by
    decide +kernel
  by_contra hdigit
  simp only [isDigit, Bool.not_eq_false, Bool.and_eq_true, decide_eq_true_eq] at hdigit
  have hmem : c.toNat ∈ List.range' '0'.toNat 10 := by
    rw [List.mem_range'_1]
    have hfirst : '0'.toNat ≤ c.toNat := hdigit.1
    have hlast : c.toNat ≤ '9'.toNat := hdigit.2
    have hnine : '9'.toNat = '0'.toNat + 9 := rfl
    omega
  rw [isIdStart, hcodes _ hmem] at h
  cases h

/-- A letter counts ten or more as a digit. -/
theorem le_of_hexValue? {c : Char} {d : Nat} (hc : isDigit c = false) (h : hexValue? c = some d) :
    10 ≤ d := by
  have hc : ¬ (('0' ≤ c && c ≤ '9') = true) := Bool.eq_false_iff.mp hc
  rw [hexValue?, if_neg hc] at h
  split at h
  case isTrue =>
    cases h
    omega
  case isFalse =>
    split at h
    case isTrue =>
      cases h
      omega
    case isFalse => cases h

/-- A number begins with a digit. -/
theorem number?_eq_none {c : Char} {cs : List Char} (h : isIdStart c = true) :
    float? (c :: cs) = none ∧ integer? (c :: cs) = none := by
  have hdigit := isDigit_of_isIdStart h
  have hzero : c ≠ '0' := by
    rintro rfl
    cases hdigit
  constructor
  · simp [float?, startsWithClass, hdigit]
  · -- The letter may be a hexadecimal digit, but then it is no decimal one.
    have hdigits : digits? 10 true (c :: cs) = none := by
      rw [digits?]
      split
      case isTrue => rfl
      case isFalse =>
        cases hvalue : hexValue? c with
        | none => rfl
        | some d =>
          have hlarge : ¬ d < 10 := Nat.not_lt.mpr (le_of_hexValue? hdigit hvalue)
          simp [hlarge, hdigit]
    unfold integer?
    split <;> simp_all

/-- What begins with an identifier and holds no quotes is no literal. -/
theorem literal?_of_ident? (h : ident? input = some rest) (hdouble : '"' ∉ input)
    (hsingle : '\'' ∉ input) : literal? input = none := by
  have hstring := string?_eq_none hdouble
  have hchar := char?_eq_none hsingle
  obtain ⟨c, cs, rfl, hstart⟩ := exists_cons_of_ident? h
  obtain ⟨hfloat, hinteger⟩ : float? (c :: cs) = none ∧ integer? (c :: cs) = none :=
    number?_eq_none hstart
  simp [literal?, hstring, hchar, hfloat, hinteger]

theorem startsLiteral_of_ident? (h : ident? input = some rest) (hdouble : '"' ∉ input)
    (hsingle : '\'' ∉ input) (hmark : rest.head? ≠ some '#') : startsLiteral input = false := by
  have hstart : isIdStart '#' = false := by decide +kernel
  have hcontinue : isIdContinue '#' = false := by decide +kernel
  have hletter : isIdContinue 'r' = true := by decide +kernel
  -- A word ends in front of the mark of a raw literal, and a raw identifier has only one of them.
  have hraw : ¬ "r##".toList <+: input := by
    rintro ⟨more, rfl⟩
    simp [ident?, word?, hstart] at h
  have hmarked : ∀ first, ¬ first :: "r#".toList <+: input := by
    rintro first ⟨more, rfl⟩
    simp [ident?, word?, hcontinue, hletter] at h
    obtain ⟨-, rfl⟩ := h
    exact hmark rfl
  rw [startsLiteral, List.any_eq_false]
  intro pattern hmem hstarts
  have hstarts := List.isPrefixOf_iff_prefix.mp hstarts
  simp only [List.mem_cons, List.not_mem_nil, or_false] at hmem
  rcases hmem with rfl | rfl | rfl | rfl | rfl | rfl | rfl | rfl | rfl | rfl
  · exact hdouble (hstarts.subset (by decide))
  · exact hdouble (hstarts.subset (by decide))
  · exact hraw hstarts
  · exact hdouble (hstarts.subset (by decide))
  · exact hsingle (hstarts.subset (by decide))
  · exact hdouble (hstarts.subset (by decide))
  · exact hmarked 'b' hstarts
  · exact hdouble (hstarts.subset (by decide))
  · exact hdouble (hstarts.subset (by decide))
  · exact hmarked 'c' hstarts

/-! ## One token -/

/-- No punctuation character begins a word. -/
theorem startsPunct_of_isIdStart {c : Char} (h : isIdStart c = true) (cs : List Char) :
    startsPunct (c :: cs) = false := by
  have hchars : "~!@#$%^&*-=+|;:,<.>/?'".toList.all (isIdStart · = false) = true := by
    decide +kernel
  have hpunct : isPunctChar c = false := by
    by_contra hpunct
    have hmem := List.contains_iff_mem.mp (Bool.not_eq_false .. ▸ hpunct)
    rw [of_decide_eq_true (List.all_eq_true.mp hchars c hmem)] at h
    cases h
  have hslash : c ≠ '/' := by
    rintro rfl
    exact absurd hpunct (by decide)
  simp [startsPunct, hslash, hpunct]

theorem punct?_of_ident? (h : ident? input = some rest) : punct? input = none := by
  obtain ⟨c, cs, rfl, hstart⟩ := exists_cons_of_ident? h
  simp [punct?, startsPunct_of_isIdStart hstart]

/-- An identifier at the beginning of a text is the first token, unless quotes or the mark of a raw
literal stand behind it. -/
theorem leaf?_of_ident? (h : ident? input = some rest) (hdouble : '"' ∉ input)
    (hsingle : '\'' ∉ input) (hmark : rest.head? ≠ some '#') :
    leaf? input = some (.ident (String.ofList (consumed input rest)), rest) := by
  simp [leaf?, literal?_of_ident? h hdouble hsingle, punct?_of_ident? h,
    startsLiteral_of_ident? h hdouble hsingle hmark, h]

/-! ## Texts without brackets -/

theorem lexemes_nil : lexemes [] = some [] := by
  simp [lexemes, skipBlanks, skipBlank?, startsWith]

/-- Where there are no brackets, nothing is nested. -/
theorem nest_leaves (before ts : List Token) :
    nest [] before (ts.map .leaf) = some (before.reverse ++ ts) := by
  induction ts generalizing before with
  | nil => simp [nest]
  | cons t rest ih => simp [nest, ih]

/-- The tokens of a text without brackets. -/
theorem tokenize_of_lexemes {text : String} {ts : List Token}
    (hmark : text.toList.head? ≠ some '\ufeff')
    (h : lexemes text.toList = some (ts.map .leaf)) : tokenize text = some ts := by
  -- Without a byte order mark nothing is dropped.
  have hdrop : dropByteOrderMark text.toList = text.toList := by
    unfold dropByteOrderMark
    split
    case h_1 heq => exact absurd (by rw [heq]; rfl) hmark
    case h_2 => rfl
  rw [tokenize, hdrop, h]
  exact nest_leaves [] ts

/-- Neither a blank nor a comment nor a bracket begins with the character. -/
def beginsLeaf (c : Char) : Bool :=
  !isTokenBlank c && !"/\ufeff()[]\x7b\x7d".toList.contains c

theorem beginsLeaf_of_isIdStart {c : Char} (h : isIdStart c = true) : beginsLeaf c = true := by
  -- A leaf begins at everything but blanks, comments and brackets, and no name starts so.
  have hne : ∀ d, isIdStart d = false → c ≠ d := by
    rintro d hd rfl
    rw [hd] at h
    cases h
  have hmarks : isIdStart '\u200e' = false ∧ isIdStart '\u200f' = false := by decide +kernel
  have hname : isNameChar c = true := by simp [isNameChar, h]
  have hblank : isTokenBlank c = false := by
    simp [isTokenBlank, isBlank_of_isNameChar hname, hne _ hmarks.1, hne _ hmarks.2]
  have hchars : "/\ufeff()[]\x7b\x7d".toList.all (isIdStart · = false) = true := by
    decide +kernel
  have hnone : "/\ufeff()[]\x7b\x7d".toList.contains c = false := by
    rw [Bool.eq_false_iff, ne_eq, List.contains_iff_mem]
    exact fun hmem => hne c (of_decide_eq_true (List.all_eq_true.mp hchars c hmem)) rfl
  rw [beginsLeaf, hblank, hnone]
  rfl

section BeginsLeaf

variable {c : Char} {cs : List Char} {t : Token}

theorem ne_of_beginsLeaf (h : beginsLeaf c = true) {d : Char}
    (hd : d ∈ "/\ufeff()[]\x7b\x7d".toList) : c ≠ d := by
  rintro rfl
  rw [beginsLeaf, List.contains_iff_mem.mpr hd, Bool.not_true, Bool.and_false] at h
  cases h

/-- Such a character begins no comment. -/
theorem cons_ne_slash (h : beginsLeaf c = true) (rest : List Char) : c :: cs ≠ '/' :: rest :=
  fun heq => ne_of_beginsLeaf h (by decide) (List.cons.inj heq).1

/-- Such a character is not skipped. -/
theorem skipBlanks_cons (h : beginsLeaf c = true) : skipBlanks (c :: cs) = c :: cs := by
  have hslash : ∀ rest, c :: cs ≠ '/' :: rest := cons_ne_slash h
  have hblank : isTokenBlank c = false := by
    rw [beginsLeaf, Bool.and_eq_true] at h
    simpa using h.1
  have hnone : skipBlank? (c :: cs) = none := by
    simp [skipBlank?, startsWith_eq_false (show "//".toList = '/' :: _ from rfl) hslash,
      startsWith_eq_false (show "/**/".toList = '/' :: _ from rfl) hslash,
      startsWith_eq_false (show "/*".toList = '/' :: _ from rfl) hslash, hblank]
  rw [skipBlanks, hnone]

/-- What begins with such a character is a token. -/
theorem lexeme?_cons (h : beginsLeaf c = true) :
    lexeme? (c :: cs) = (leaf? (c :: cs)).map fun (t, rest) => ([.leaf t], rest) := by
  have hslash : ∀ rest, c :: cs ≠ '/' :: rest := cons_ne_slash h
  have hdoc : docComment? (c :: cs) = none := by
    simp [docComment?, startsWith_eq_false (show "//!".toList = '/' :: _ from rfl) hslash,
      startsWith_eq_false (show "/*!".toList = '/' :: _ from rfl) hslash,
      startsWith_eq_false (show "///".toList = '/' :: _ from rfl) hslash,
      startsWith_eq_false (show "/**".toList = '/' :: _ from rfl) hslash]
  unfold lexeme?
  rw [hdoc]
  simp only
  -- All cases but the last are for brackets.
  split
  case h_7 => rfl
  all_goals
    rename_i heq
    exact absurd (List.cons.inj heq).1 (ne_of_beginsLeaf h (by decide))

/-- A token at the beginning of a text comes in front of the others. -/
theorem lexemes_of_leaf? (h : beginsLeaf c = true) (hleaf : leaf? (c :: cs) = some (t, rest))
    (hlength : rest.length ≤ cs.length) :
    lexemes (c :: cs) = (lexemes rest).map (.leaf t :: ·) := by
  rw [lexemes, skipBlanks_cons h]
  simp only [lexeme?_cons h, hleaf, Option.map_some, List.length_cons, Nat.lt_succ_of_le hlength,
    if_true, List.singleton_append]

/-- A text that is read as one token up to its end has no other token. -/
theorem tokenize_of_leaf? (h : beginsLeaf c = true) (hleaf : leaf? (c :: cs) = some (t, [])) :
    tokenize (String.ofList (c :: cs)) = some [t] := by
  have hmark : c ≠ '\ufeff' := ne_of_beginsLeaf h (by decide)
  apply tokenize_of_lexemes
  · simpa using hmark
  · rw [String.toList_ofList, lexemes_of_leaf? h hleaf (Nat.zero_le _), lexemes_nil]
    rfl

end BeginsLeaf

/-- **An identifier is one token.** -/
theorem tokenize_of_isIdent {name : String} (h : IsIdent name) :
    tokenize name = some [.ident name] := by
  have hleaf := leaf?_of_ident? h (not_mem_of_ident? h (by decide +kernel))
    (not_mem_of_ident? h (by decide +kernel)) (by simp)
  obtain ⟨c, cs, hname, hstart⟩ := exists_cons_of_ident? h
  rw [consumed, List.length_nil, Nat.sub_zero, List.take_length, String.ofList_toList, hname]
    at hleaf
  rw [← String.ofList_toList (s := name), hname]
  rw [tokenize_of_leaf? (beginsLeaf_of_isIdStart hstart) hleaf, ← hname, String.ofList_toList]

end RouteRegistrar.Token
