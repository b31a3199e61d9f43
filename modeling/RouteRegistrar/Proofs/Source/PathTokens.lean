import RouteRegistrar.Proofs.Source.WholePaths
import RouteRegistrar.Proofs.Token.Identifiers

/-!
# Two ways to write a path

The path of an item is written as a text where a handler type is named, and as a tree where a type
is made absolute. This module shows that both give the same tokens, whatever identifiers the path
consists of: the text is read name by name, and between two names there are two colons, the first
glued to the second.
-/

namespace RouteRegistrar

open Text

namespace Token

variable {name tail : List Char} {names : List String} {first : String}

/-! ## Identifiers in front of other text -/

theorem word?_append (h : word? name = some []) (hend : ∀ c ∈ tail.head?, isNameChar c = false) :
    word? (name ++ tail) = some tail := by
  cases name with
  | nil => cases h
  | cons c cs =>
    have hstart : isIdStart c = true := by
      by_contra hstart
      simp [word?, hstart] at h
    have hcs : cs.dropWhile isIdContinue = [] := by simpa [word?, hstart] using h
    -- What follows does not go on with the name, so nothing of it is taken.
    have htail : tail.dropWhile isIdContinue = tail := by
      cases tail with
      | nil => rfl
      | cons d rest =>
        have hd := hend d rfl
        simp only [isNameChar, Bool.or_eq_false_iff] at hd
        exact List.dropWhile_cons_of_neg (by simp [hd.1.2])
    rw [List.cons_append, word?, if_pos hstart, List.dropWhile_append, hcs, htail]
    rfl

/-- An identifier ends in front of a character that no name holds. -/
theorem ident?_append (h : ident? name = some [])
    (hend : ∀ c ∈ tail.head?, isNameChar c = false) : ident? (name ++ tail) = some tail := by
  unfold ident? at h
  split at h
  case h_1 rest =>
    split at h
    case h_1 more hword =>
      split at h
      case isTrue => cases h
      case isFalse hraw =>
        cases h
        rw [consumed, List.length_nil, Nat.sub_zero, List.take_length] at hraw
        show ident? ('r' :: '#' :: (rest ++ tail)) = some tail
        simp [ident?, word?_append hword hend, consumed_append, hraw]
    case h_2 => cases h
  case h_2 hplain =>
    -- The text does not begin with the mark of a raw identifier either.
    unfold ident?
    split
    case h_1 rest heq =>
      exfalso
      cases name with
      | nil => cases h
      | cons c name =>
        cases name with
        | nil =>
          obtain ⟨rfl, rfl⟩ := List.cons.inj heq
          exact absurd (hend '#' rfl) (by decide +kernel)
        | cons d name =>
          simp only [List.cons_append, List.cons.injEq] at heq
          exact hplain name (by rw [heq.1, heq.2.1])
    case h_2 => exact word?_append h hend

/-! ## Names with colons between them -/

/-- The tokens of names with two colons between them. -/
def pathTokens (names : List String) : List Token :=
  (operator "::").intercalate (names.map ([ident ·]))

/-- Two colons are two tokens, the first of which is glued to the second. -/
theorem lexemes_colons (h : startsPunct tail = false) :
    lexemes (':' :: ':' :: tail) = (lexemes tail).map ((operator "::").map .leaf ++ ·) := by
  have hbegins : beginsLeaf ':' = true := by decide +kernel
  -- A colon is no literal; as punctuation it is joint exactly if more punctuation follows.
  have hleaf : ∀ cs, leaf? (':' :: cs) =
      some (punct ':' (if startsPunct cs then .joint else .alone), cs) := by
    intro cs
    have hinteger : integer? (':' :: cs) = none := by
      unfold integer?
      simp [digits?, hexValue?]
    have hliteral : literal? (':' :: cs) = none := by
      simp [literal?, string?, char?, float?, startsWithClass, isDigit, hinteger]
    simp [leaf?, hliteral, punct?, startsPunct, isPunctChar]
  rw [lexemes_of_leaf? hbegins (hleaf _) (Nat.le_refl _),
    lexemes_of_leaf? hbegins (hleaf _) (Nat.le_refl _), h, Option.map_map]
  rfl

/-- A character of no name stands in no path, unless it is a colon. -/
theorem not_mem_path (hnames : ∀ name ∈ names, IsIdent name) {d : Char}
    (hd : isNameChar d = false) (hcolon : d ≠ ':') : d ∉ ("::".intercalate names).toList := by
  induction names with
  | nil => simp
  | cons first rest ih =>
    obtain ⟨hfirst, hrest⟩ := List.forall_mem_cons.mp hnames
    have hname := not_mem_of_ident? hfirst hd
    -- The characters of a path are those of its names and colons.
    cases rest with
    | nil => simpa using hname
    | cons second rest =>
      rw [String.intercalate_cons_cons, String.toList_append, String.toList_append]
      simp only [List.mem_append, not_or]
      exact ⟨⟨hname, by simp [hcolon]⟩, ih hrest⟩

/-- An identifier in front of other text is read first. -/
theorem lexemes_append_of_isIdent (h : IsIdent first)
    (hend : ∀ c ∈ tail.head?, isNameChar c = false) (hdouble : '"' ∉ first.toList ++ tail)
    (hsingle : '\'' ∉ first.toList ++ tail) :
    lexemes (first.toList ++ tail) = (lexemes tail).map (.leaf (.ident first) :: ·) := by
  -- A hash is a character of names, so no raw literal begins here.
  have hmark : tail.head? ≠ some '#' := by
    intro hhead
    exact absurd (hend '#' hhead) (by decide +kernel)
  have hleaf := leaf?_of_ident? (ident?_append h hend) hdouble hsingle hmark
  rw [consumed_append, String.ofList_toList] at hleaf
  obtain ⟨c, cs, hfirst, hstart⟩ := exists_cons_of_ident? h
  rw [hfirst, List.cons_append] at hleaf ⊢
  exact lexemes_of_leaf? (beginsLeaf_of_isIdStart hstart) hleaf (by simp)

/-- No path without colons in front begins with punctuation. -/
theorem startsPunct_path (hnames : ∀ name ∈ names, IsIdent name) :
    startsPunct ("::".intercalate names).toList = false := by
  cases names with
  | nil => rfl
  | cons first rest =>
    obtain ⟨c, cs, hfirst, hstart⟩ := exists_cons_of_ident? (hnames first List.mem_cons_self)
    cases rest with
    | nil => simpa [hfirst] using startsPunct_of_isIdStart hstart cs
    | cons second rest =>
      rw [String.intercalate_cons_cons, String.toList_append, String.toList_append, hfirst]
      exact startsPunct_of_isIdStart hstart _

/-- Colons in front of a path are read before its names. -/
theorem lexemes_colons_path (hnames : ∀ name ∈ names, IsIdent name) :
    lexemes ("::".toList ++ ("::".intercalate names).toList) =
      (lexemes ("::".intercalate names).toList).map ((operator "::").map .leaf ++ ·) :=
  lexemes_colons (startsPunct_path hnames)

/-- Names are read one by one, with the colons between them. -/
theorem lexemes_path (hnames : ∀ name ∈ names, IsIdent name) :
    lexemes ("::".intercalate names).toList = some ((pathTokens names).map .leaf) := by
  -- Without quotes in the path, no name can be taken for the prefix of a literal.
  have hdouble := not_mem_path hnames (d := '"') (by decide +kernel) (by decide)
  have hsingle := not_mem_path hnames (d := '\'') (by decide +kernel) (by decide)
  induction names with
  | nil => simpa [pathTokens] using lexemes_nil
  | cons first rest ih =>
    obtain ⟨hfirst, hrest⟩ := List.forall_mem_cons.mp hnames
    cases rest with
    | nil =>
      have hlexemes : lexemes (first.toList ++ []) =
          (lexemes []).map (.leaf (.ident first) :: ·) :=
        lexemes_append_of_isIdent hfirst nofun (by simpa using hdouble) (by simpa using hsingle)
      simpa [pathTokens, lexemes_nil] using hlexemes
    | cons second rest =>
      rw [String.intercalate_cons_cons, String.toList_append, String.toList_append,
        List.append_assoc] at hdouble hsingle ⊢
      -- A name ends where the colons begin, since a colon is no character of a name.
      have hcolon : ∀ c ∈ ("::".toList ++ ("::".intercalate (second :: rest)).toList).head?,
          isNameChar c = false := by
        simp only [List.head?_append, Option.mem_def]
        rintro c hc
        cases hc
        decide +kernel
      rw [lexemes_append_of_isIdent hfirst hcolon hdouble hsingle, lexemes_colons_path hrest,
        ih hrest (not_mem_path hrest (by decide +kernel) (by decide))
          (not_mem_path hrest (by decide +kernel) (by decide))]
      simp [pathTokens, List.intercalate_cons_cons]

/-- The text of a path has the tokens of its names, with and without colons in front. -/
theorem tokenize_path (rooted : Bool) (hnames : ∀ name ∈ names, IsIdent name) :
    tokenize ((if rooted then "::" else "") ++ "::".intercalate names) =
      some ((if rooted then operator "::" else []) ++ pathTokens names) := by
  cases rooted with
  | true =>
    apply tokenize_of_lexemes
    · rw [if_pos rfl, String.toList_append]
      exact fun hhead => absurd (Option.some.inj hhead) (by decide)
    · rw [if_pos rfl, String.toList_append, lexemes_colons_path hnames, lexemes_path hnames,
        Option.map_some, ← List.map_append]
      rfl
  | false =>
    -- The text must not start with a byte order mark, which the lexer would skip.
    have hmark : '\ufeff' ∉ ("::".intercalate names).toList :=
      not_mem_path hnames (by decide +kernel) (by decide)
    apply tokenize_of_lexemes
    · rw [if_neg Bool.false_ne_true, String.empty_append]
      exact fun hhead => hmark (List.mem_of_mem_head? hhead)
    · rw [if_neg Bool.false_ne_true, String.empty_append]
      exact lexemes_path hnames

end Token

/-! ## Paths of items -/

namespace ItemPath

open Token

variable {path : ItemPath} {libraryName : Option String} {names : List String}

theorem isIdentifier_of_word? {cs : List Char} (h : word? cs = some []) :
    isIdentifier cs = true := by
  unfold word? at h
  split at h
  case h_1 => cases h
  case h_2 c rest =>
    split at h
    case isTrue hstart =>
      have hrest := List.dropWhile_eq_nil_iff.mp (Option.some.inj h)
      rw [isIdentifier, hstart, Bool.true_and, List.all_eq_true]
      exact hrest
    case isFalse => cases h

/-- An identifier can be written as one. -/
theorem isWritable_of_isIdent {name : String} (h : IsIdent name) : isWritable name = true := by
  suffices hword : nameWord name = .ok (.word name) from (nameWord_eq_ok_iff.mp hword).1
  rw [IsIdent, ident?.eq_def] at h
  -- A raw name is an identifier behind `r#`; the others are identifiers as they are.
  split at h
  case h_1 rest heq =>
    split at h
    case h_1 more hword =>
      split at h
      case isTrue => cases h
      case isFalse hraw =>
        cases h
        rw [consumed, List.length_nil, Nat.sub_zero, List.take_length] at hraw
        rw [nameWord.eq_def, heq]
        simp [hraw, identifier, isIdentifier_of_word? hword, Except.map]
    case h_2 => cases h
  case h_2 hplain =>
    have hidentifier : identifier name = .ok name := if_pos (isIdentifier_of_word? h)
    rw [nameWord.eq_def]
    split
    case h_1 rest heq => exact absurd heq (hplain rest)
    case h_2 => rw [hidentifier]; rfl

/-- The tokens of a path put together from names. -/
theorem toTokens_pathOfSegments (rooted : Bool) (names : List String) :
    (Tree.pathOfSegments rooted
      ((names.map (·, Tree.absent)).map Tree.namedSegment)).toTokens =
      (if rooted then operator "::" else []) ++ pathTokens names := by
  -- The names and the colons in between; the arguments are missing and give no token.
  have hnames : Tree.toTokensAll
      (((names.map (·, Tree.absent)).map Tree.namedSegment).intersperse (.op "::")) =
        pathTokens names := by
    induction names with
    | nil => rfl
    | cons first rest ih =>
      cases rest with
      | nil => rfl
      | cons second rest =>
        simp only [List.map_cons, List.intersperse_cons_cons, Tree.toTokensAll] at ih ⊢
        rw [ih, pathTokens, pathTokens, List.map_cons, List.map_cons, List.map_cons,
          List.intercalate_cons_cons, List.append_assoc]
        rfl
  rw [Tree.pathOfSegments, Tree.toTokens, Tree.toTokensAll, hnames]
  cases rooted <;> rfl

/-- **Both ways to write a path give the same tokens**: if all of its names and the name of the
library are identifiers, raw or not, then the path can be written as a tree, and the text of the
path is read as the tokens of this tree. So a handler type and a type that name one item name it
alike. -/
theorem tokenize_text (hnames : ∀ name ∈ path.segments, IsIdent name)
    (hlibrary : ∀ name ∈ libraryName, IsIdent name) :
    ∃ tree, path.tree libraryName = .ok tree ∧
      tokenize (path.text libraryName) = some tree.toTokens := by
  -- In front there is the library, `crate` or nothing, and these are identifiers.
  have hanchor : ∀ name ∈ (path.anchor libraryName).2, IsIdent name := by
    unfold anchor
    split
    case h_1 library _ => exact List.forall_mem_singleton.mpr (hlibrary library rfl)
    case h_2 => exact List.forall_mem_singleton.mpr (by decide +kernel)
    case h_3 => exact nofun
  have hspelled : ∀ name ∈ (path.spelling libraryName).names, IsIdent name :=
    List.forall_mem_append.mpr ⟨hanchor, hnames⟩
  have hwritable : AreWritable (path.spelling libraryName).names :=
    fun name hname => isWritable_of_isIdent (hspelled name hname)
  refine ⟨_, tree_eq_ok_iff.mpr ⟨hwritable, rfl⟩, ?_⟩
  rw [toTokens_pathOfSegments]
  exact tokenize_path (path.spelling libraryName).isRooted hspelled

/-- An item of the library behind a raw name. -/
theorem tokenize_text_of_raw_name :
    (∀ name ∈ ["r#type", "Größe"], IsIdent name) ∧ (∀ name ∈ some "pet_store", IsIdent name) ∧
    ∃ tree,
      (ItemPath.mk (.target .library) ["r#type", "Größe"]).tree (some "pet_store") = .ok tree ∧
      tokenize "::pet_store::r#type::Größe" = some tree.toTokens := by
  have hnames : ∀ name ∈ ["r#type", "Größe"], IsIdent name := by decide +kernel
  have hlibrary : ∀ name ∈ some "pet_store", IsIdent name := by decide +kernel
  have htext : (ItemPath.mk (.target .library) ["r#type", "Größe"]).text (some "pet_store") =
      "::pet_store::r#type::Größe" := by decide +kernel
  rw [← htext]
  exact ⟨hnames, hlibrary, tokenize_text hnames hlibrary⟩

end ItemPath

end RouteRegistrar
