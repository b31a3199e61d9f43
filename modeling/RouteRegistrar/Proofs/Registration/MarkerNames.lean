import RouteRegistrar.Proofs.Registration.MountPaths
import RouteRegistrar.Proofs.Text.Casing
import RouteRegistrar.Proofs.Text.Lowercase
import RouteRegistrar.Route.Marker

/-!
# Names of markers

A name denotes a marker if its words, capitalised, are the canonical spelling of the marker or this
spelling and the suffix of marker types. This module says which names these are, letter by letter.
No character outside ASCII can stand in one, although some have letters of ASCII as their other
case, since these letters are not in the spellings. What remains is a grammar: one word, or two of
them that are apart by separators or by the way in which they are written.
-/

namespace RouteRegistrar

open Text

namespace RouteMarker

/-! ## Spellings -/

/-- The spellings of a marker: its name in any case, or its name and the suffix, each in any case,
with separators between them or told apart by their cases. -/
inductive Spells (marker : RouteMarker) : List Char → Prop where
  | bare (casing : Casing) : Spells marker (casing.write marker.text.toList)
  | suffixed (first second : Casing) {separators : List Char} :
      (∀ c ∈ separators, isSeparatorChar c = true) →
      (separators = [] → first.joins second = true) →
      Spells marker (first.write marker.text.toList ++ separators ++ second.write typeSuffix)

/-- The words of the grammar: one for each marker, and the suffix. -/
theorem words_of_names :
    all.map (fun marker => (marker, marker.text.toList)) =
      [(group, "Group".toList), (get, "Get".toList), (post, "Post".toList),
        (delete, "Delete".toList), (put, "Put".toList)] ∧
    typeSuffix = "Attribute".toList := by
  decide

/-! ## Letters -/

/-- The letters of the canonical spellings and of the suffix. -/
def nameLetters : List Char := all.flatMap (·.text.toList) ++ typeSuffix

theorem isAlpha_of_mem_nameLetters {c : Char} (h : c ∈ nameLetters) : c.isAlpha = true :=
  List.all_eq_true.mp (by decide +kernel : nameLetters.all Char.isAlpha = true) c h

/-- A text of two letters or more, capitalised. -/
structure IsName (name : List Char) : Prop where
  long : 1 < name.length
  letters : name ⊆ nameLetters
  capitalized : Casing.capitalized.write name = name

theorem mem_all (marker : RouteMarker) : marker ∈ all := by
  cases marker <;> decide

theorem isName_text (marker : RouteMarker) : IsName marker.text.toList := by
  have hletters : marker.text.toList ⊆ nameLetters := fun c hc =>
    List.mem_append_left _ (List.mem_flatMap.mpr ⟨marker, mem_all marker, hc⟩)
  cases marker <;> exact ⟨by decide, hletters, by decide⟩

theorem isName_typeSuffix : IsName typeSuffix :=
  ⟨by decide, List.subset_append_right .., by decide⟩

/-- Runs of a case table move no code point outside ASCII to a letter of the names. -/
def runsAvoidNames (runs : List Table.CaseRun) : Bool :=
  runs.all fun run => nameLetters.all fun d =>
    decide (run.last < 128 ∨ (d.toNat : Int) < run.first + run.offset ∨
      run.last + run.offset < (d.toNat : Int))

/-- Expansions of a case table have characters that are no letters of the names. -/
def expansionsAvoidNames (expansions : List (Nat × List Nat)) : Bool :=
  expansions.all fun entry => entry.2.any fun code => decide (Char.ofNat code ∉ nameLetters)

/-- The other case of a character outside ASCII does not consist of letters of the names. -/
theorem exists_mem_mapCase {runs : List Table.CaseRun} {expansions : List (Nat × List Nat)}
    {c : Char} (hruns : runsAvoidNames runs = true)
    (hexpansions : expansionsAvoidNames expansions = true) (hc : ¬c.toNat < 128) :
    ∃ d ∈ mapCase runs expansions c, d ∉ nameLetters := by
  unfold mapCase
  split
  case h_1 codes hcodes =>
    obtain ⟨before, behind, htable, -⟩ := List.lookup_eq_some_iff.mp hcodes
    have hentry := List.all_eq_true.mp hexpansions (c.toNat, codes) (by rw [htable]; simp)
    obtain ⟨code, hcode, hother⟩ := List.any_eq_true.mp hentry
    exact ⟨Char.ofNat code, List.mem_map_of_mem hcode, of_decide_eq_true hother⟩
  case h_2 =>
    -- The runs move a code point outside ASCII to none of the letters, nor does it stay one.
    refine ⟨_, List.mem_singleton_self _, fun hletter => ?_⟩
    have hascii := toNat_lt_of_isAlpha (isAlpha_of_mem_nameLetters hletter)
    have hpositive : nameLetters.all (fun d => decide (0 < d.toNat)) = true := by decide +kernel
    have hcode := of_decide_eq_true (List.all_eq_true.mp hpositive _ hletter)
    have hvalid : ((c.toNat : Int) + runOffset runs c.toNat).toNat.isValidChar := by
      by_contra hsurrogate
      rw [Char.toNat_ofNat, if_neg hsurrogate] at hcode
      exact Nat.lt_irrefl 0 hcode
    rcases runOffset_cases runs c.toNat with hnone | ⟨run, hrun, hfirst, hlast, hoffset⟩
    · rw [toNat_ofNat_of_isValidChar hvalid, hnone] at hascii
      omega
    · have havoids := of_decide_eq_true
        (List.all_eq_true.mp (List.all_eq_true.mp hruns run hrun) _ hletter)
      rw [toNat_ofNat_of_isValidChar hvalid] at havoids hcode
      rw [hoffset] at havoids hcode
      omega

/-- A character is a letter of ASCII if its other case consists of letters of the names. -/
theorem isAlpha_of_cased {runs : List Table.CaseRun} {expansions : List (Nat × List Nat)}
    {simple : Char → Char} {c : Char} (hruns : runsAvoidNames runs = true)
    (hexpansions : expansionsAvoidNames expansions = true)
    (hsimple : (simple c).isAlpha = c.isAlpha)
    (h : (if c.toNat < 128 then [simple c] else mapCase runs expansions c) ⊆ nameLetters) :
    c.isAlpha = true := by
  -- Below 128 case is changed letter by letter; above, some character is left that no name has.
  split at h
  case isTrue =>
    rw [← hsimple]
    exact isAlpha_of_mem_nameLetters (h (List.mem_singleton_self _))
  case isFalse hcode =>
    obtain ⟨d, hd, hother⟩ := exists_mem_mapCase hruns hexpansions hcode
    exact absurd (h hd) hother

theorem isAlpha_of_upperChar {c : Char} (h : upperChar c ⊆ nameLetters) : c.isAlpha = true :=
  isAlpha_of_cased (by decide +kernel) (by decide +kernel) (Char.isAlpha_toUpper_eq_isAlpha c) h

theorem isAlpha_of_lowerChar {c : Char} (h : lowerChar c ⊆ nameLetters) : c.isAlpha = true :=
  isAlpha_of_cased (by decide +kernel) (by decide +kernel) (Char.isAlpha_toLower_eq_isAlpha c) h

theorem isAlpha_of_lower {cs : List Char} (h : lower cs ⊆ nameLetters) :
    ∀ c ∈ cs, c.isAlpha = true := by
  rw [lower] at h
  generalize ([] : List Char) = before at h
  induction cs generalizing before with
  | nil => exact List.forall_mem_nil _
  | cons c rest ih =>
    rw [lowerFrom] at h
    split at h
    case isTrue =>
      -- Neither form of the small sigma is a letter of the names.
      have hsigma := isAlpha_of_mem_nameLetters (h List.mem_cons_self)
      split at hsigma <;> cases hsigma
    case isFalse =>
      obtain ⟨hc, hrest⟩ := List.append_subset.mp h
      exact List.forall_mem_cons.mpr ⟨isAlpha_of_lowerChar hc, ih _ hrest⟩

theorem isAlpha_of_capitalize {cs : List Char} (h : capitalize cs ⊆ nameLetters) :
    ∀ c ∈ cs, c.isAlpha = true := by
  cases cs with
  | nil => exact nofun
  | cons c rest =>
    obtain ⟨hc, hrest⟩ := List.append_subset.mp h
    exact List.forall_mem_cons.mpr ⟨isAlpha_of_upperChar hc, isAlpha_of_lower hrest⟩

/-- A text is plain if its Pascal form consists of letters of the names. -/
theorem isPlain_of_pascalCase {cs : List Char} (h : pascalCase cs ⊆ nameLetters) :
    ∀ c ∈ cs, isPlain c = true := by
  intro c hc
  rw [← flatten_clusters cs] at hc
  obtain ⟨cluster, hcluster, hcc⟩ := List.mem_flatten.mp hc
  -- A cluster is a separator or stands in a word, and of a word every character is written.
  cases hseparator : isSeparator cluster with
  | true =>
    simp only [isSeparator, Bool.or_eq_true, decide_eq_true_eq] at hseparator
    rcases hseparator with (rfl | rfl) | rfl
    all_goals
      rw [List.mem_singleton.mp hcc]
      rfl
  | false =>
    obtain ⟨word, hword, hcw⟩ := exists_mem_words_iff.mpr ⟨cluster, hcluster, hseparator, hcc⟩
    refine isPlain_of_isAlpha (isAlpha_of_capitalize (fun d hd => h ?_) c hcw)
    exact List.mem_flatten.mpr ⟨capitalize word, List.mem_map_of_mem hword, hd⟩

/-! ## Words of names -/

namespace IsName

variable {name cs : List Char} {casing : Casing} (h : IsName name)
include h

theorem isAlpha : ∀ c ∈ name, c.isAlpha = true := fun _ hc =>
  isAlpha_of_mem_nameLetters (h.letters hc)

theorem isAlpha_write : ∀ c ∈ casing.write name, c.isAlpha = true :=
  Casing.isAlpha_write h.isAlpha

theorem write_ne_nil : casing.write name ≠ [] := by
  refine List.ne_nil_of_length_pos ?_
  rw [Casing.length_write]
  exact Nat.zero_lt_of_lt h.long

theorem isCapitalized : IsCapitalized name := by
  rw [← h.capitalized]
  exact isCapitalized_write (List.ne_nil_of_length_pos (Nat.zero_lt_of_lt h.long)) h.isAlpha

/-- The first word of a text is a name if it is written as one and ends there. -/
theorem map_words_eq_cons_iff {names : List (List Char)} (hcs : ∀ c ∈ cs, isPlain c = true) :
    (words cs).map Casing.capitalized.write = name :: names ↔
      ∃ front casing rest, cs = front ++ (Casing.write casing name ++ rest) ∧
        (∀ c ∈ front, isSeparatorChar c = true) ∧ casing.endsBefore rest = true ∧
        (words rest).map Casing.capitalized.write = names := by
  -- The first word is found behind separators. It ends where its casing says so: all lower case,
  -- capitalized and all upper case are the only ways to be a single word.
  constructor
  · intro hmap
    obtain ⟨u, ws, hwords, rfl, rfl⟩ := List.map_eq_cons_iff.mp hmap
    have hu := isAlpha_of_mem_words hcs (hwords ▸ List.mem_cons_self)
    have hlong := h.long
    rw [Casing.length_write] at hlong
    obtain ⟨front, rest, rfl, hfront, hword, rfl⟩ := (words_eq_cons_iff hcs).mp hwords
    obtain ⟨casing, hcasing, hends⟩ :=
      (Casing.isWordBefore_iff hlong hu fun c hc => hcs c (by simp [hc])).mp hword
    refine ⟨front, casing, rest, ?_, hfront, hends, rfl⟩
    rw [Casing.write_write, hcasing]
  · rintro ⟨front, casing, rest, rfl, hfront, hends, rfl⟩
    have hword := (Casing.isWordBefore_iff (by rw [Casing.length_write]; exact h.long)
      h.isAlpha_write fun c hc => hcs c (by simp [hc])).mpr
      ⟨casing, Casing.write_write .., hends⟩
    rw [(words_eq_cons_iff hcs).mpr ⟨front, rest, rfl, hfront, hword, rfl⟩, List.map_cons,
      Casing.write_write, h.capitalized]

end IsName

/-- A Pascal form shows some names if the text is plain and its words are these names. -/
theorem pascalCase_eq_names_iff {cs : List Char} {names : List (List Char)}
    (hnames : ∀ name ∈ names, IsName name) :
    pascalCase cs = names.flatten ↔
      (∀ c ∈ cs, isPlain c = true) ∧ (words cs).map Casing.capitalized.write = names := by
  have hcapitalized : ∀ name ∈ names, IsCapitalized name := fun name hname =>
    (hnames name hname).isCapitalized
  constructor
  · intro h
    -- The names are made of ASCII letters, and only letters have these in their Pascal form.
    have hletters : names.flatten ⊆ nameLetters := by
      intro c hc
      obtain ⟨name, hname, hcn⟩ := List.mem_flatten.mp hc
      exact (hnames name hname).letters hcn
    have hcs := isPlain_of_pascalCase (h ▸ hletters)
    exact ⟨hcs, (pascalCase_eq_flatten_iff hcs hcapitalized).mp h⟩
  · rintro ⟨hcs, hwords⟩
    exact (pascalCase_eq_flatten_iff hcs hcapitalized).mpr hwords

/-! ## From spellings to Pascal forms and back -/

variable {marker : RouteMarker} {cs text front back : List Char}

/-- A spelling consists of letters and separators, with letters at both ends. -/
theorem Spells.letters (h : Spells marker text) :
    (∀ c ∈ text, isPlain c = true) ∧ text ≠ [] ∧ (∀ c ∈ text.head?, c.isAlpha = true) ∧
      ∀ c ∈ text.getLast?, c.isAlpha = true := by
  have hname := isName_text marker
  -- Only separators between the two words are no letters, and they are not at the ends.
  cases h with
  | bare casing =>
    exact ⟨fun c hc => isPlain_of_isAlpha (hname.isAlpha_write c hc), hname.write_ne_nil,
      fun c hc => hname.isAlpha_write c (List.mem_of_head? hc),
      fun c hc => hname.isAlpha_write c (List.mem_of_getLast? hc)⟩
  | suffixed first second hseparators =>
    have hsuffix := isName_typeSuffix
    refine ⟨?_, ?_, ?_, ?_⟩
    · refine List.forall_mem_append.mpr ⟨List.forall_mem_append.mpr ⟨?_, ?_⟩, ?_⟩
      · exact fun c hc => isPlain_of_isAlpha (hname.isAlpha_write c hc)
      · exact fun c hc => isPlain_of_isSeparatorChar (hseparators c hc)
      · exact fun c hc => isPlain_of_isAlpha (hsuffix.isAlpha_write c hc)
    · exact List.append_ne_nil_of_right_ne_nil _ hsuffix.write_ne_nil
    · intro c hc
      rw [List.append_assoc, List.head?_append_of_ne_nil _ hname.write_ne_nil] at hc
      exact hname.isAlpha_write c (List.mem_of_head? hc)
    · intro c hc
      rw [List.getLast?_append_of_ne_nil _ hsuffix.write_ne_nil] at hc
      exact hsuffix.isAlpha_write c (List.mem_of_getLast? hc)

/-- A spelling is what remains of it without the separators around it. -/
theorem Spells.trimBy_append (h : Spells marker text)
    (hfront : ∀ c ∈ front, isSeparatorChar c = true)
    (hback : ∀ c ∈ back, isSeparatorChar c = true) :
    Spells marker (trimBy isSeparatorChar (front ++ (text ++ back))) := by
  obtain ⟨-, hne, hfirst, hlast⟩ := h.letters
  rwa [← List.append_assoc, Text.trimBy_append hfront hback hne
    (fun c hc => not_isSeparatorChar_of_isAlpha (hfirst c hc))
    (fun c hc => not_isSeparatorChar_of_isAlpha (hlast c hc))]

theorem spells_of_pascalCase_eq_text (h : pascalCase cs = marker.text.toList) :
    Spells marker (trimBy isSeparatorChar cs) := by
  have hname := isName_text marker
  obtain ⟨hcs, hwords⟩ := (pascalCase_eq_names_iff (List.forall_mem_singleton.mpr hname)).mp
    (h.trans List.flatten_singleton.symm)
  obtain ⟨front, casing, rest, rfl, hfront, -, hrest⟩ :=
    (hname.map_words_eq_cons_iff hcs).mp hwords
  rw [List.map_eq_nil_iff, words_eq_nil_iff fun c hc => hcs c (by simp [hc])] at hrest
  exact (Spells.bare casing).trimBy_append hfront hrest

theorem forall_mem_names (marker : RouteMarker) :
    ∀ name ∈ [marker.text.toList, typeSuffix], IsName name :=
  List.forall_mem_cons.mpr
    ⟨isName_text marker, List.forall_mem_singleton.mpr isName_typeSuffix⟩

theorem spells_of_pascalCase_eq_append (h : pascalCase cs = marker.text.toList ++ typeSuffix) :
    Spells marker (trimBy isSeparatorChar cs) := by
  have hsuffix := isName_typeSuffix
  obtain ⟨hcs, hwords⟩ := (pascalCase_eq_names_iff (forall_mem_names marker)).mp
    (h.trans (by simp))
  obtain ⟨front, first, rest, rfl, hfront, hends, hrest⟩ :=
    ((isName_text marker).map_words_eq_cons_iff hcs).mp hwords
  obtain ⟨separators, second, back, rfl, hseparators, -, hback⟩ :=
    (hsuffix.map_words_eq_cons_iff fun c hc => hcs c (by simp [hc])).mp hrest
  rw [List.map_eq_nil_iff, words_eq_nil_iff fun c hc => hcs c (by simp [hc])] at hback
  -- The first word ends in front of the separators, or else of the second word itself.
  have hjoins :=
    (Casing.endsBefore_separators_iff hseparators hsuffix.long hsuffix.isAlpha).mp hends
  have hspelling : Spells marker
      (first.write marker.text.toList ++ separators ++ second.write typeSuffix) :=
    .suffixed first second hseparators hjoins
  simpa only [List.append_assoc] using hspelling.trimBy_append hfront hback

theorem pascalCase_of_spells (h : Spells marker (trimBy isSeparatorChar cs)) :
    pascalCase cs = marker.text.toList ∨ pascalCase cs = marker.text.toList ++ typeSuffix := by
  have hname := isName_text marker
  have hsuffix := isName_typeSuffix
  -- Around the spelling there are separators only, so the whole text is plain.
  obtain ⟨front, back, hparts, hfront, hback, -⟩ := exists_trimBy isSeparatorChar cs
  generalize trimBy isSeparatorChar cs = text at h hparts
  have hcs : ∀ c ∈ front ++ text ++ back, isPlain c = true := by
    refine List.forall_mem_append.mpr ⟨List.forall_mem_append.mpr ⟨?_, h.letters.1⟩, ?_⟩
    · exact fun c hc => isPlain_of_isSeparatorChar (hfront c hc)
    · exact fun c hc => isPlain_of_isSeparatorChar (hback c hc)
  have hnone : (words back).map Casing.capitalized.write = [] := by
    rwa [List.map_eq_nil_iff,
      words_eq_nil_iff fun c hc => isPlain_of_isSeparatorChar (hback c hc)]
  subst hparts
  cases h with
  | bare casing =>
    left
    have hwords := (hname.map_words_eq_cons_iff hcs).mpr ⟨front, casing, back,
      List.append_assoc .., hfront, Casing.endsBefore_of_separators hback, hnone⟩
    rw [(pascalCase_eq_names_iff (List.forall_mem_singleton.mpr hname)).mpr ⟨hcs, hwords⟩,
      List.flatten_singleton]
  | @suffixed first second separators hseparators hjoins =>
    right
    have hrest : ∀ c ∈ separators ++ (second.write typeSuffix ++ back), isPlain c = true :=
      fun c hc => hcs c (by simp at hc ⊢; tauto)
    have hlast := (hsuffix.map_words_eq_cons_iff hrest).mpr ⟨separators, second, back, rfl,
      hseparators, Casing.endsBefore_of_separators hback, hnone⟩
    have hends : first.endsBefore (separators ++ (second.write typeSuffix ++ back)) = true :=
      (Casing.endsBefore_separators_iff hseparators hsuffix.long hsuffix.isAlpha).mpr hjoins
    have hwords := (hname.map_words_eq_cons_iff hcs).mpr ⟨front, first, _,
      by simp only [List.append_assoc], hfront, hends, hlast⟩
    rw [(pascalCase_eq_names_iff (forall_mem_names marker)).mpr ⟨hcs, hwords⟩]
    simp

/-! ## Names -/

/-- What remains without the suffix is a canonical spelling. -/
theorem dropTypeSuffix_eq_text_iff : dropTypeSuffix text = marker.text.toList ↔
    text = marker.text.toList ∨ text = marker.text.toList ++ typeSuffix := by
  -- No marker ends in the suffix itself, so dropping it once is enough.
  have hshort : typeSuffix.isSuffixOf marker.text.toList = false := by
    cases marker <;> decide
  rw [dropTypeSuffix]
  constructor
  · intro h
    split at h
    case isTrue hsuffix =>
      refine .inr ?_
      rw [← h, List.suffix_iff_eq_append.mp (List.isSuffixOf_iff_suffix.mp hsuffix)]
    case isFalse => exact .inl h
  · rintro (rfl | rfl)
    · rw [hshort]
      rfl
    · rw [if_pos (List.isSuffixOf_iff_suffix.mpr (List.suffix_append ..)), List.length_append,
        Nat.add_sub_cancel, List.take_left]

/-- A marker is found by its own spelling. -/
theorem ofName?_eq_some_iff {name : String} : ofName? name = some marker ↔
    dropTypeSuffix (pascalCase (trim name.toList)) = marker.text.toList := by
  rw [ofName?]
  generalize dropTypeSuffix (pascalCase (trim name.toList)) = stem
  constructor
  · intro h
    -- What is found has the text; and no two markers have the same text.
    have hfound := List.find?_some h
    exact (of_decide_eq_true hfound).symm
  · rintro rfl
    cases marker <;> decide

/-- **Names of markers are those of the grammar.** A name denotes a marker exactly if it spells the
marker once the blanks around it and then the separators around it are removed, and a name that
spells no marker denotes none. -/
theorem ofName?_eq_some_iff_spells (name : String) :
    (∀ marker, ofName? name = some marker ↔
      Spells marker (trimBy isSeparatorChar (trim name.toList))) ∧
    (ofName? name = none ↔
      ∀ marker, ¬Spells marker (trimBy isSeparatorChar (trim name.toList))) := by
  -- A name denotes a marker if its Pascal case is the marker, with or without the suffix.
  have hspells : ∀ marker, ofName? name = some marker ↔
      Spells marker (trimBy isSeparatorChar (trim name.toList)) := by
    intro marker
    rw [ofName?_eq_some_iff, dropTypeSuffix_eq_text_iff]
    exact ⟨fun h => h.elim spells_of_pascalCase_eq_text spells_of_pascalCase_eq_append,
      pascalCase_of_spells⟩
  refine ⟨hspells, ?_⟩
  rw [Option.eq_none_iff_forall_ne_some]
  exact forall_congr' fun marker => not_congr (hspells marker)

/-- Separators around a name do not count, and any of them may stand between its words. Without one,
a suffix in lower case is not told apart from the name. -/
theorem ofName?_of_get_attribute :
    ofName? " _GET-attribute " = some .get ∧ Spells .get "GET-attribute".toList ∧
      ofName? "getattribute" = none ∧ ∀ marker, ¬Spells marker "getattribute".toList := by
  have htrimmed : trimBy isSeparatorChar (trim " _GET-attribute ".toList) =
        "GET-attribute".toList ∧
      trimBy isSeparatorChar (trim "getattribute".toList) = "getattribute".toList := by
    decide +kernel
  -- The name is evaluated; how it is spelled is read off the theorem.
  have hnames : ofName? " _GET-attribute " = some .get ∧ ofName? "getattribute" = none := by
    decide +kernel
  have hspelled := ((ofName?_eq_some_iff_spells " _GET-attribute ").1 .get).mp hnames.1
  have hother := (ofName?_eq_some_iff_spells "getattribute").2.mp hnames.2
  rw [htrimmed.1] at hspelled
  rw [htrimmed.2] at hother
  exact ⟨hnames.1, hspelled, hnames.2, hother⟩

end RouteMarker

end RouteRegistrar
