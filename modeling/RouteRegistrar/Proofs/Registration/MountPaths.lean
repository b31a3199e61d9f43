import RouteRegistrar.Proofs.Token.Literals
import RouteRegistrar.Route.Registration

/-!
# Mount paths that are literals

The arguments of a group marker may be a string literal. The slashes around its value are dropped,
and the mount path is written as a literal again, with one slash in front. Whatever characters the
value has, this literal stands for the value without its slashes, behind the one slash: what has
been escaped is read back, and nothing else is lost.
-/

namespace RouteRegistrar

open Text Token Registration

/-! ## Trimming -/

namespace Text

variable {p : Char → Bool} {cs : List Char} {c : Char}

theorem not_of_mem_head?_dropWhile (h : c ∈ (cs.dropWhile p).head?) : p c = false := by
  have hhead := List.head?_dropWhile_not p cs
  rw [Option.mem_def.mp h] at hhead
  exact hhead

/-- Trimming takes characters of the class from both ends, as many as there are. -/
theorem exists_trimBy (p : Char → Bool) (cs : List Char) :
    ∃ front back, cs = front ++ trimBy p cs ++ back ∧ (∀ c ∈ front, p c = true) ∧
      (∀ c ∈ back, p c = true) ∧ (∀ c ∈ (trimBy p cs).head?, p c = false) ∧
      ∀ c ∈ (trimBy p cs).getLast?, p c = false := by
  have hmiddle : cs.dropWhile p =
      trimBy p cs ++ ((cs.dropWhile p).reverse.takeWhile p).reverse := by
    rw [trimBy, ← List.reverse_append, List.takeWhile_append_dropWhile, List.reverse_reverse]
  refine ⟨cs.takeWhile p, ((cs.dropWhile p).reverse.takeWhile p).reverse, ?_, ?_, ?_, ?_, ?_⟩
  · rw [List.append_assoc, ← hmiddle, List.takeWhile_append_dropWhile]
  · exact fun c => List.mem_takeWhile_imp
  · exact fun c hc => List.mem_takeWhile_imp (List.mem_reverse.mp hc)
  · intro c hc
    -- What is left begins like the text behind the front.
    have hbegin : c ∈ (cs.dropWhile p).head? := by
      rw [hmiddle, List.head?_append, Option.mem_def.mp hc]
      rfl
    exact not_of_mem_head?_dropWhile hbegin
  · intro c hc
    rw [trimBy, List.getLast?_reverse] at hc
    exact not_of_mem_head?_dropWhile hc

/-- Trimming leaves what begins and ends outside the class. -/
theorem trimBy_append {front back : List Char} (hfront : ∀ c ∈ front, p c = true)
    (hback : ∀ c ∈ back, p c = true) (hne : cs ≠ []) (hfirst : ∀ c ∈ cs.head?, p c = false)
    (hlast : ∀ c ∈ cs.getLast?, p c = false) : trimBy p (front ++ cs ++ back) = cs := by
  -- Nothing of `cs` is dropped in front, whatever comes behind it.
  have hdrop : ∀ more, (cs ++ more).dropWhile p = cs ++ more := by
    intro more
    cases cs with
    | nil => exact absurd rfl hne
    | cons c rest => exact List.dropWhile_cons_of_neg (by simp [hfirst c rfl])
  have hkept : trimBy p cs = cs := trimBy_eq_self hfirst hlast
  have hcs : cs.dropWhile p = cs := by simpa using hdrop []
  rw [trimBy, hcs] at hkept
  rw [trimBy, List.append_assoc, List.dropWhile_append_of_pos hfront, hdrop, List.reverse_append,
    List.dropWhile_append_of_pos fun c hc => hback c (List.mem_reverse.mp hc), hkept]

end Text

namespace MountPath

/-- There are no blanks around a literal. -/
theorem trimString_literal (value : String) :
    trimString (Quoted.literal value) = Quoted.literal value := by
  have hquote : isBlank '"' = false := by decide +kernel
  -- A literal starts and ends with a quote, which is no blank.
  have hends : trim ('"' :: Quoted.encode value.toList ++ ['"']) =
      '"' :: Quoted.encode value.toList ++ ['"'] := by
    refine trimBy_eq_self ?_ ?_
    · rintro c ⟨⟩
      exact hquote
    · intro c hc
      rw [List.getLast?_append, List.getLast?_singleton, Option.some_or] at hc
      cases hc
      exact hquote
  rw [trimString, Quoted.literal, String.toList_ofList, hends]

/-- A marker whose arguments are a literal gives its value, without slashes around it. -/
theorem ofArguments_literal (value : String) :
    ofArguments (Quoted.literal value) = .literal (trimSlashes value) := by
  simp only [ofArguments, trimString_literal, tokenize_literal, Quoted.value?_literal]

/-- All slashes around a text are dropped, and nothing else. -/
theorem exists_trimSlashes (text : String) :
    (∃ before behind, text.toList =
      List.replicate before '/' ++ (trimSlashes text).toList ++ List.replicate behind '/') ∧
    (trimSlashes text).toList.head? ≠ some '/' ∧ (trimSlashes text).toList.getLast? ≠ some '/' := by
  -- What is trimmed is a run of slashes on each side.
  have hslashes : ∀ {cs : List Char}, (∀ c ∈ cs, decide (c = '/') = true) →
      cs = List.replicate cs.length '/' :=
    fun h => List.eq_replicate_of_mem fun c hc => of_decide_eq_true (h c hc)
  obtain ⟨front, back, htext, hfront, hback, hfirst, hlast⟩ :=
    exists_trimBy (· = '/') text.toList
  rw [trimSlashes, String.toList_ofList]
  refine ⟨⟨front.length, back.length, ?_⟩, fun hhead => ?_, fun hend => ?_⟩
  · rw [← hslashes hfront, ← hslashes hback]
    exact htext
  · cases hfirst '/' hhead
  · cases hlast '/' hend

/-- **A literal mount path survives**: for every text, a marker whose arguments are the literal of
the text mounts its group at the text without the slashes around it. If nothing is left, the group
is merged, by `let app = app.merge(handle);`. Else it is nested, by
`let app = app.nest(…, handle);`, at a literal that stands for one slash and for what is left. -/
theorem mount_literal (value : String) :
    ∃ trimmed : String, (∃ before behind, value.toList =
        List.replicate before '/' ++ trimmed.toList ++ List.replicate behind '/') ∧
      trimmed.toList.head? ≠ some '/' ∧ trimmed.toList.getLast? ≠ some '/' ∧
      ofArguments (Quoted.literal value) = .literal trimmed ∧
      ∀ handle,
        (trimmed = "" → mountStatement handle (.literal trimmed) =
          [.ident "let", .ident "app", .punct '=' .alone, .ident "app", .punct '.' .alone,
            .ident "merge", .group .parenthesis [.ident handle], .punct ';' .alone]) ∧
        (trimmed ≠ "" → ∃ written, mountStatement handle (.literal trimmed) =
            [.ident "let", .ident "app", .punct '=' .alone, .ident "app", .punct '.' .alone,
              .ident "nest", .group .parenthesis
                [.literal written, .punct ',' .alone, .ident handle], .punct ';' .alone] ∧
          tokenize written = some [.literal written] ∧
          Quoted.value? written = some ("/" ++ trimmed)) := by
  obtain ⟨hslashes, hfirst, hlast⟩ := exists_trimSlashes value
  refine ⟨trimSlashes value, hslashes, hfirst, hlast, ofArguments_literal value, fun handle => ?_⟩
  constructor
  · intro hempty
    rw [hempty]
    rfl
  · intro hleft
    refine ⟨Quoted.literal ("/" ++ trimSlashes value), ?_, tokenize_literal _,
      Quoted.value?_literal _⟩
    -- A text that is left is written as a literal, which the lexer reads as one token.
    have htokens : mountTokens? (.literal (trimSlashes value)) =
        some [.literal (Quoted.literal ("/" ++ trimSlashes value))] :=
      if_neg (by simpa using hleft)
    rw [mountStatement, htokens]
    rfl

/-- A text with slashes around it, which tries to end its literal and the statement behind it. The
null character stands in front of an octal digit. -/
theorem mount_literal_of_hostile_text :
    ofArguments (Quoted.literal "//a\"), b); let\\\x007/") = .literal "a\"), b); let\\\x007" ∧
      ∃ written, written = "\"/a\\\"), b); let\\\\\\x007\"" ∧
        mountStatement "api_a" (.literal "a\"), b); let\\\x007") =
          [.ident "let", .ident "app", .punct '=' .alone, .ident "app", .punct '.' .alone,
            .ident "nest", .group .parenthesis
              [.literal written, .punct ',' .alone, .ident "api_a"], .punct ';' .alone] ∧
        Quoted.value? written = some "/a\"), b); let\\\x007" := by
  obtain ⟨trimmed, -, -, -, harguments, hmount⟩ := mount_literal "//a\"), b); let\\\x007/"
  -- The text is trimmed as the theorem says, and what is left is evaluated.
  have htrimmed : MountPath.literal trimmed = .literal "a\"), b); let\\\x007" := by
    rw [← harguments]
    decide +kernel
  cases htrimmed
  obtain ⟨written, hstatement, -, hvalue⟩ := (hmount "api_a").2 (by decide)
  have hcomputed : mountTokens? (.literal "a\"), b); let\\\x007") =
      some [.literal "\"/a\\\"), b); let\\\\\\x007\""] := by
    decide +kernel
  refine ⟨harguments, written, ?_, hstatement, hvalue⟩
  rw [mountStatement, hcomputed] at hstatement
  cases hstatement
  rfl

end MountPath

end RouteRegistrar
