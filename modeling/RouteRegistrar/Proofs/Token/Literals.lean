import Mathlib.Tactic.SplitIfs
import RouteRegistrar.Proofs.Token.Identifiers

/-!
# String literals

A text that is written as a string literal is read back from it, and as source text the literal is
one token. Both readers go through the literal character by character, so it is enough to know what
they make of one written character: as itself, behind a backslash by a letter, or by its code point.
-/

namespace RouteRegistrar

open Token

namespace Text.Quoted

/-! ## Written characters -/

/-- How a character may be written in a literal. -/
inductive Writes (c : Char) : List Char → Prop where
  /-- As it is. -/
  | plain (hquote : c ≠ '"') (hbackslash : c ≠ '\\') (hreturn : c ≠ '\r') : Writes c [c]
  /-- By a letter that stands for it. -/
  | letter {l : Char} (h : letterEscape? l = some c) : Writes c ['\\', l]
  /-- The null character, by two digits. -/
  | null (h : c = '\x00') : Writes c ['\\', 'x', '0', '0']
  /-- By its code point. -/
  | code : Writes c ('\\' :: 'u' :: '{' :: (hexDigits c.toNat ++ ['}']))

/-- Each character is written in one of these ways, whatever stands behind it. -/
theorem writes_escapeChar (c : Char) (rest : List Char) : Writes c (escapeChar c rest) := by
  unfold escapeChar
  split_ifs with hnull hoctal htab hreturn hline hquote hbackslash
  · exact .null hnull
  · exact .letter (congrArg some hnull.symm)
  · exact .letter (congrArg some htab.symm)
  · exact .letter (congrArg some hreturn.symm)
  · exact .letter (congrArg some hline.symm)
  · exact .letter (congrArg some hquote.symm)
  · exact .letter (congrArg some hbackslash.symm)
  · exact .plain hquote hbackslash hreturn
  · exact .code

/-! ## Code points -/

theorem hexValue?_digitChar {d : Nat} (h : d < 16) : hexValue? d.digitChar = some d := by
  have hall : ∀ d < 16, hexValue? d.digitChar = some d := by decide
  exact hall d h

/-- The digits of a number are read as the number. -/
theorem codeEscape_hexDigits {n : Nat} (h : (hexDigits n).length ≤ 6) (rest : List Char) :
    codeEscape 0 0 (hexDigits n ++ rest) = codeEscape n (hexDigits n).length rest := by
  induction n using Nat.strongRecOn generalizing rest with
  | ind n ih =>
    by_cases hsmall : n < 16
    · rw [hexDigits, Nat.toDigits_of_lt_base hsmall, List.singleton_append, codeEscape,
        hexValue?_digitChar hsmall]
      simp
    · -- All digits but the last are those of a smaller number.
      have hdigits : hexDigits n = hexDigits (n / 16) ++ [(n % 16).digitChar] :=
        Nat.toDigits_of_base_le (by decide) (Nat.le_of_not_lt hsmall)
      have hlength : (hexDigits n).length = (hexDigits (n / 16)).length + 1 := by
        rw [hdigits, List.length_append, List.length_singleton]
      rw [hdigits, List.append_assoc, List.singleton_append, ih (n / 16) (by omega) (by omega),
        codeEscape, hexValue?_digitChar (Nat.mod_lt n (by decide)), ← hdigits, hlength]
      simp only
      rw [if_neg (by omega), Nat.div_add_mod' n 16]

/-- The code point of a character stands for the character. -/
theorem codeEscape_char (c : Char) (rest : List Char) :
    codeEscape 0 0 (hexDigits c.toNat ++ '}' :: rest) = some (c, rest) := by
  have hvalid : c.toNat.isValidChar := c.valid
  -- A code point has six hexadecimal digits at most.
  have hlength : (hexDigits c.toNat).length ≤ 6 := by
    rw [hexDigits, Nat.length_toDigits_le_iff (by decide) (by decide)]
    rw [Nat.isValidChar] at hvalid
    omega
  have hdigits : 0 < (hexDigits c.toNat).length := Nat.length_toDigits_pos
  have hbrace : hexValue? '}' = none := by decide
  rw [codeEscape_hexDigits hlength, codeEscape, hbrace]
  simp [hdigits, charOfCode?, hvalid, Char.ofNat_toNat]

/-! ## Reading back -/

variable {c : Char} {written : List Char}

theorem decodeStep_of_writes (h : Writes c written) (rest : List Char) :
    decodeStep (written ++ rest) = some (some c, rest) := by
  -- Each way to write a character is one case of the decoder.
  cases h with
  | plain hquote hbackslash hreturn =>
    unfold decodeStep
    split <;> simp_all
  | letter h =>
    unfold letterEscape? at h
    split at h
    all_goals cases h
    all_goals rfl
  | null h =>
    rw [h]
    rfl
  | code =>
    have hstep : decodeStep ('\\' :: 'u' :: '{' :: (hexDigits c.toNat ++ '}' :: rest)) =
        (codeEscape 0 0 (hexDigits c.toNat ++ '}' :: rest)).map fun read => (some read.1, read.2) :=
      rfl
    rw [codeEscape_char] at hstep
    simpa using hstep

/-- A written character does not end a literal. -/
theorem exists_cons_of_writes (h : Writes c written) :
    ∃ first more, written = first :: more ∧ first ≠ '"' := by
  cases h with
  | plain hquote => exact ⟨_, _, rfl, hquote⟩
  | letter | null | code => exact ⟨_, _, rfl, by decide⟩

theorem decode_of_writes (h : Writes c written) (rest : List Char) :
    decode (written ++ rest) = (decode rest).map (c :: ·) := by
  obtain ⟨first, more, hwritten, hquote⟩ := exists_cons_of_writes h
  -- What is written for a character does not start with the closing quote.
  have hhead : (written ++ rest).head? ≠ some '"' := by
    simpa [hwritten] using hquote
  have hlength : rest.length < (written ++ rest).length := by
    rw [hwritten, List.length_append, List.length_cons]
    omega
  rw [decode, if_neg hhead, decodeStep_of_writes h]
  simp only
  rw [if_pos hlength]
  rfl

/-- A text is read back from the content of its literal. -/
theorem decode_encode (text rest : List Char) :
    decode (encode text ++ '"' :: rest) = some text := by
  induction text with
  | nil =>
    have hhead : ('"' :: rest).head? = some '"' := rfl
    rw [encode, List.nil_append, decode, if_pos hhead]
  | cons c text ih =>
    rw [encode, List.append_assoc, decode_of_writes (writes_escapeChar c text), ih]
    rfl

/-- **A text is read back from its literal.** -/
theorem value?_literal (text : String) : value? (literal text) = some text := by
  have hdecode := decode_encode text.toList []
  rw [value?, literal, String.toList_ofList, List.cons_append]
  simp only
  rw [hdecode, Option.map_some, String.ofList_toList]

/-- In front of an octal digit the null character needs two digits. -/
example : literal "\x007\"" = "\"\\x007\\\"\"" := by decide +kernel

end Text.Quoted

namespace Token

open Text.Quoted

variable {c : Char} {written : List Char}

/-! ## One token -/

theorem cookedString_escape (cs : List Char) {rest : List Char} (h : escape .text cs = some rest)
    (hlength : rest.length ≤ cs.length) :
    cookedString .text ('\\' :: cs) = cookedString .text rest := by
  rw [cookedString, h]
  exact if_pos hlength

/-- A written character is a part of a string. -/
theorem cookedString_of_writes (h : Writes c written) (rest : List Char) :
    cookedString .text (written ++ rest) = cookedString .text rest := by
  -- The lexer skips what stands for one character, and goes on behind it.
  cases h with
  | plain hquote hbackslash hreturn =>
    rw [List.singleton_append, cookedString.eq_def .text (c :: rest)]
    split <;> simp_all [mayHold]
  | @letter l h =>
    refine cookedString_escape (l :: rest) ?_ (Nat.le_succ _)
    unfold letterEscape? at h
    split at h
    all_goals cases h
    all_goals rfl
  | null => exact cookedString_escape ('x' :: '0' :: '0' :: rest) rfl (Nat.le_add_right _ 3)
  | code =>
    have hescape : escape .text ('u' :: '{' :: (hexDigits c.toNat ++ '}' :: rest)) = some rest := by
      unfold escape
      simp only [codeEscape_char]
    have hcooked := cookedString_escape _ hescape (by simp; omega)
    simpa using hcooked

theorem cookedString_encode (text rest : List Char) :
    cookedString .text (encode text ++ '"' :: rest) = some rest := by
  induction text with
  | nil => rw [encode, List.nil_append, cookedString]
  | cons c text ih =>
    rw [encode, List.append_assoc, cookedString_of_writes (writes_escapeChar c text), ih]

/-- **A literal is one token.** -/
theorem tokenize_literal (text : String) :
    tokenize (Text.Quoted.literal text) = some [.literal (Text.Quoted.literal text)] := by
  have hquote : beginsLeaf '"' = true := by decide +kernel
  -- The quote in the end closes the string, as all those inside are escaped.
  have hstring : string? ('"' :: (encode text.toList ++ ['"'])) = some [] := by
    show (cookedString .text (encode text.toList ++ ['"'])).map skipSuffix = some []
    rw [cookedString_encode]
    rfl
  have hleaf : leaf? ('"' :: (encode text.toList ++ ['"'])) =
      some (.literal (Text.Quoted.literal text), []) := by
    have hliteral : literal? ('"' :: (encode text.toList ++ ['"'])) = some [] := by
      rw [literal?, hstring]
      rfl
    rw [leaf?, hliteral]
    simp only
    rw [consumed, List.length_nil, Nat.sub_zero, List.take_length]
    rfl
  exact tokenize_of_leaf? hquote hleaf

end Token

end RouteRegistrar
