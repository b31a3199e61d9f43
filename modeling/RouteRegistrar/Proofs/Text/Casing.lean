import Mathlib
import RouteRegistrar.Proofs.Text.Words

/-!
# Words of ASCII letters

In a text of ASCII letters and separators, a word of two letters or more is written in one of three
ways: in lower case, capitalised or in upper case. The way it is written decides what may stand
behind it. Behind a small letter a word ends where a capital follows, behind a capital only where
the next word is capitalised, since a run of capitals gives its last one to a small letter.
-/

namespace RouteRegistrar.Text

variable {c d : Char} {cs rest u v : List Char}

/-! ## ASCII -/

theorem toNat_lt_of_isAlpha (h : c.isAlpha = true) : c.toNat < 128 := by
  simp only [Char.isAlpha, Char.isUpper, Char.isLower, Bool.or_eq_true, Bool.and_eq_true,
    decide_eq_true_eq, ge_iff_le, UInt32.le_iff_toNat_le] at h
  have hcode : c.toNat = c.val.toNat := rfl
  rcases h with ⟨-, hlast⟩ | ⟨-, hlast⟩
  · have hlastCapital : 'Z'.val.toNat = 90 := rfl
    omega
  · have hlastSmall : 'z'.val.toNat = 122 := rfl
    omega

/-- In upper and lower case, texts of ASCII characters are mapped one by one. -/
theorem upper_eq_map (h : ∀ c ∈ cs, c.toNat < 128) : upper cs = cs.map Char.toUpper := by
  rw [upper, List.map_eq_flatMap]
  exact List.flatMap_congr fun c hc => if_pos (h c hc)

theorem lower_eq_map (h : ∀ c ∈ cs, c.toNat < 128) : lower cs = cs.map Char.toLower := by
  rw [lower]
  generalize ([] : List Char) = before
  induction cs generalizing before with
  | nil => rfl
  | cons c rest ih =>
    obtain ⟨hc, hrest⟩ := List.forall_mem_cons.mp h
    -- Only the final sigma depends on what is around it, and it is not in ASCII.
    have hsigma : c ≠ 'Σ' := by
      rintro rfl
      exact absurd hc (by decide)
    rw [lowerFrom, if_neg hsigma, lowerChar, if_pos hc, ih hrest]
    rfl

/-! ## Plain texts -/

/-- The characters that separate words. -/
def isSeparatorChar (c : Char) : Bool := c = '_' || c = '-' || c = ' '

/-- A letter of ASCII or a separator. -/
def isPlain (c : Char) : Bool := c.isAlpha || isSeparatorChar c

theorem isSeparator_singleton (c : Char) : isSeparator [c] = isSeparatorChar c := by
  simp [isSeparator, isSeparatorChar]

theorem not_isSeparatorChar_of_isAlpha (h : c.isAlpha = true) : isSeparatorChar c = false := by
  rw [isSeparatorChar, Bool.or_eq_false_iff, Bool.or_eq_false_iff]
  refine ⟨⟨?_, ?_⟩, ?_⟩
  all_goals
    refine decide_eq_false ?_
    rintro rfl
    exact absurd h (by decide)

theorem toNat_lt_of_isPlain (h : isPlain c = true) : c.toNat < 128 := by
  simp only [isPlain, isSeparatorChar, Bool.or_eq_true, decide_eq_true_eq] at h
  rcases h with hletter | (rfl | rfl) | rfl
  · exact toNat_lt_of_isAlpha hletter
  all_goals decide

/-- Nothing joins a plain character. -/
theorem joinsCluster_of_isPlain (hc : isPlain c = true) (hd : isPlain d = true) :
    joinsCluster c d = false := by
  -- No ASCII character attaches to another one, apart from the end of a line.
  have hcodes : ∀ code ∈ List.range 128, Table.attaching.contains code = false ∧
      Table.leading.contains code = false := by
    decide +kernel
  have hreturn : c ≠ '\r' := by
    rintro rfl
    exact absurd hc (by decide)
  rw [joinsCluster, (hcodes d.toNat (List.mem_range.mpr (toNat_lt_of_isPlain hd))).1,
    (hcodes c.toNat (List.mem_range.mpr (toNat_lt_of_isPlain hc))).2, decide_eq_false hreturn]
  rfl

/-- The clusters of a plain text are its characters. -/
theorem clusters_of_isPlain (h : ∀ c ∈ cs, isPlain c = true) : clusters cs = cs.map ([·]) := by
  induction cs with
  | nil => rfl
  | cons c rest ih =>
    obtain ⟨hc, hrest⟩ := List.forall_mem_cons.mp h
    unfold clusters
    rw [ih hrest]
    cases rest with
    | nil => rfl
    | cons d rest =>
      simp [joinsCluster_of_isPlain hc (hrest d (by simp))]

theorem isUpperCluster_singleton (h : isPlain c = true) : isUpperCluster [c] = c.isUpper := by
  have hascii : ∀ d ∈ [c], d.toNat < 128 := List.forall_mem_singleton.mpr (toNat_lt_of_isPlain h)
  rw [isUpperCluster, upper_eq_map hascii, lower_eq_map hascii]
  -- A plain character that is no letter is its own upper and lower case.
  cases hc : c.isUpper with
  | true =>
    have hlower : c ≠ c.toLower := by
      intro heq
      simpa [← heq, hc] using Char.isUpper_toLower_eq_false c
    simp [Char.toUpper_eq_of_not_isLower (Char.not_isLower_of_isUpper hc), hlower]
  | false =>
    have hlower : c.toLower = c := Char.toLower_eq_of_not_isUpper (by simp [hc])
    by_cases hupper : c = c.toUpper
    · simp [hlower, ← hupper]
    · simp [hupper]

theorem isLowerCluster_singleton (h : isPlain c = true) : isLowerCluster [c] = c.isLower := by
  have hascii : ∀ d ∈ [c], d.toNat < 128 := List.forall_mem_singleton.mpr (toNat_lt_of_isPlain h)
  rw [isLowerCluster, upper_eq_map hascii, lower_eq_map hascii]
  cases hc : c.isLower with
  | true =>
    have hupper : c.toUpper ≠ c := by
      intro heq
      simpa [heq, hc] using Char.isLower_toUpper_eq_false c
    simp [Char.toLower_eq_of_not_isUpper (Char.not_isUpper_of_isLower hc), hupper]
  | false =>
    simp [Char.toUpper_eq_of_not_isLower (by simp [hc] : ¬ c.isLower = true)]

theorem isDigitCluster_singleton (h : isPlain c = true) : isDigitCluster [c] = false := by
  have hcodes : ∀ code ∈ List.range 128, isPlain (Char.ofNat code) = true →
      isDigit (Char.ofNat code) = false := by
    decide +kernel
  have hcode := hcodes c.toNat (List.mem_range.mpr (toNat_lt_of_isPlain h))
  rw [Char.ofNat_toNat] at hcode
  rw [isDigitCluster, List.all_cons, hcode h]
  rfl

/-! ## Where words of letters end -/

/-- A text begins with a capital. -/
def beginsUpper (cs : List Char) : Bool := cs.head?.any Char.isUpper

/-- A text begins with a capital and a small letter. -/
def beginsCapitalized : List Char → Bool
  | c :: d :: _ => c.isUpper && d.isLower
  | _ => false

/-- A text begins with a separator, if it begins at all. -/
def beginsApart (cs : List Char) : Bool := cs.head?.all isSeparatorChar

/-- Behind a small letter a word ends because of a capital. -/
theorem endsWord_of_isLower (hc : c.isLower = true) (hrest : ∀ d ∈ rest, isPlain d = true) :
    endsWord [c] (rest.map ([·])) = beginsUpper rest := by
  have hplain : isPlain c = true := by simp [isPlain, Char.isAlpha, hc]
  have hupper : c.isUpper = false := by simpa using Char.not_isUpper_of_isLower hc
  -- Two characters decide: a change of case, and the end of an acronym before a capitalized word.
  match rest with
  | [] => rfl
  | [d] =>
    have hd : isPlain d = true := hrest d (by simp)
    simp [endsWord, changesKind, beginsUpper, isUpperCluster_singleton, isLowerCluster_singleton,
      isDigitCluster_singleton, hplain, hd, hc]
  | d :: e :: more =>
    have hd : isPlain d = true := hrest d (by simp)
    simp [endsWord, changesKind, endsAcronym, beginsUpper, isUpperCluster_singleton,
      isLowerCluster_singleton, isDigitCluster_singleton, hplain, hd, hc, hupper]

/-- Behind a capital a word ends because of a capitalised word. -/
theorem endsWord_of_isUpper (hc : c.isUpper = true) (hrest : ∀ d ∈ rest, isPlain d = true) :
    endsWord [c] (rest.map ([·])) = beginsCapitalized rest := by
  have hplain : isPlain c = true := by simp [isPlain, Char.isAlpha, hc]
  have hlower : c.isLower = false := by simpa using Char.not_isLower_of_isUpper hc
  -- Behind a capital only the end of an acronym can end the word.
  match rest with
  | [] => rfl
  | [d] =>
    have hd : isPlain d = true := hrest d (by simp)
    simp [endsWord, changesKind, beginsCapitalized, isLowerCluster_singleton,
      isDigitCluster_singleton, hplain, hd, hlower]
  | d :: e :: more =>
    have hd : isPlain d = true := hrest d (by simp)
    have he : isPlain e = true := hrest e (by simp)
    simp [endsWord, changesKind, endsAcronym, beginsCapitalized, isUpperCluster_singleton,
      isLowerCluster_singleton, isDigitCluster_singleton, hplain, hd, he, hc, hlower]

theorem isPlain_of_isAlpha (h : c.isAlpha = true) : isPlain c = true := by
  rw [isPlain, h, Bool.true_or]

theorem isPlain_of_isSeparatorChar (h : isSeparatorChar c = true) : isPlain c = true := by
  rw [isPlain, h, Bool.or_true]

theorem all_isSeparator_map (cs : List Char) :
    (cs.map ([·])).head?.all isSeparator = beginsApart cs := by
  cases cs with
  | nil => rfl
  | cons c rest => exact isSeparator_singleton c

theorem not_isSeparator_singleton (h : c.isAlpha = true) : isSeparator [c] = false := by
  rw [isSeparator_singleton, not_isSeparatorChar_of_isAlpha h]

theorem isLower_iff_of_isAlpha (h : c.isAlpha = true) : c.isLower = true ↔ c.isUpper = false := by
  rw [Char.isAlpha, Bool.or_eq_true] at h
  rcases h with hupper | hlower
  · simpa [hupper] using Char.not_isLower_of_isUpper hupper
  · simpa [hlower] using Char.not_isUpper_of_isLower hlower

/-- A word of two characters or more goes on behind its first one. -/
theorem isWordBefore_cons_cons (hc : c.isAlpha = true) :
    IsWordBefore (rest.map ([·])) ((c :: d :: u).map ([·])) ↔
      endsWord [c] ((d :: u ++ rest).map ([·])) = false ∧
        IsWordBefore (rest.map ([·])) ((d :: u).map ([·])) := by
  simp only [List.map_cons, List.map_append, IsWordBefore, not_isSeparator_singleton hc, true_and]

theorem isWordBefore_singleton (hc : c.isAlpha = true) :
    IsWordBefore (rest.map ([·])) ([c].map ([·])) ↔
      endsWord [c] (rest.map ([·])) = true ∨ beginsApart rest = true := by
  simp only [List.map_cons, List.map_nil, IsWordBefore, not_isSeparator_singleton hc, true_and,
    all_isSeparator_map]

theorem isPlain_append (hu : ∀ c ∈ u, c.isAlpha = true) (hrest : ∀ c ∈ rest, isPlain c = true) :
    ∀ c ∈ u ++ rest, isPlain c = true :=
  List.forall_mem_append.mpr ⟨fun c hc => isPlain_of_isAlpha (hu c hc), hrest⟩

/-- What begins with a small letter is a word if all of it is small. -/
theorem isWordBefore_of_isLower (hc : c.isLower = true) (hu : ∀ d ∈ u, d.isAlpha = true)
    (hrest : ∀ d ∈ rest, isPlain d = true) :
    IsWordBefore (rest.map ([·])) ((c :: u).map ([·])) ↔
      (∀ d ∈ u, d.isLower = true) ∧ (beginsUpper rest = true ∨ beginsApart rest = true) := by
  have hletter : c.isAlpha = true := by simp [Char.isAlpha, hc]
  induction u generalizing c with
  | nil =>
    rw [isWordBefore_singleton hletter, endsWord_of_isLower hc hrest]
    simp
  | cons d u ih =>
    obtain ⟨hd, hmore⟩ := List.forall_mem_cons.mp hu
    -- The word goes on as long as the next letter is a small one.
    have hgoes : beginsUpper (d :: u ++ rest) = false ↔ d.isLower = true :=
      (isLower_iff_of_isAlpha hd).symm
    rw [isWordBefore_cons_cons hletter, endsWord_of_isLower hc (isPlain_append hu hrest), hgoes,
      List.forall_mem_cons, and_assoc]
    exact and_congr_right fun hlower => ih hlower hmore hd

theorem beginsUpper_of_beginsCapitalized (h : beginsCapitalized cs = true) :
    beginsUpper cs = true := by
  match cs with
  | c :: d :: rest =>
    rw [beginsCapitalized, Bool.and_eq_true] at h
    exact h.1

/-- No capitalised word begins in front of another one or of a separator. -/
theorem beginsCapitalized_cons (h : beginsCapitalized rest = true ∨ beginsApart rest = true) :
    beginsCapitalized (c :: rest) = false := by
  cases rest with
  | nil => rfl
  | cons d rest =>
    -- A small second letter would be neither a capital nor apart from what follows.
    have hd : d.isLower = false := by
      by_contra hsmall
      have hlower : d.isLower = true := by simpa using hsmall
      have hletter : d.isAlpha = true := by simp [Char.isAlpha, hlower]
      rcases h with hcapitalized | hapart
      · exact Char.not_isUpper_of_isLower hlower (beginsUpper_of_beginsCapitalized hcapitalized)
      · exact Bool.false_ne_true ((not_isSeparatorChar_of_isAlpha hletter).symm.trans hapart)
    rw [beginsCapitalized, hd, Bool.and_false]

/-- What begins with two capitals is a word if all of it is large. -/
theorem isWordBefore_of_isUpper (hc : c.isUpper = true) (hd : d.isUpper = true)
    (hu : ∀ e ∈ u, e.isAlpha = true) (hrest : ∀ e ∈ rest, isPlain e = true) :
    IsWordBefore (rest.map ([·])) ((c :: d :: u).map ([·])) ↔
      (∀ e ∈ u, e.isUpper = true) ∧
        (beginsCapitalized rest = true ∨ beginsApart rest = true) := by
  have hletter : c.isAlpha = true := by simp [Char.isAlpha, hc]
  have hsecond : d.isAlpha = true := by simp [Char.isAlpha, hd]
  have hplain := isPlain_append (List.forall_mem_cons.mpr ⟨hsecond, hu⟩) hrest
  rw [isWordBefore_cons_cons hletter, endsWord_of_isUpper hc hplain]
  -- A capital looks two letters ahead, so the induction keeps the first two of them.
  induction u generalizing c d with
  | nil =>
    rw [isWordBefore_singleton hsecond, endsWord_of_isUpper hd hrest, List.singleton_append,
      and_iff_right_of_imp beginsCapitalized_cons]
    simp
  | cons e u ih =>
    obtain ⟨he, hmore⟩ := List.forall_mem_cons.mp hu
    have hgoes : beginsCapitalized (d :: e :: u ++ rest) = false ↔ e.isUpper = true := by
      have hsmall := isLower_iff_of_isAlpha he
      cases hupper : e.isUpper <;> simp_all [beginsCapitalized]
    have hnext := isPlain_append hu hrest
    rw [hgoes, isWordBefore_cons_cons hsecond, endsWord_of_isUpper hd hnext, List.forall_mem_cons,
      and_assoc]
    exact and_congr_right fun hupper => ih hd hupper hmore hsecond he hnext

/-! ## Ways to write a word -/

/-- The ways to write a word of letters. -/
inductive Casing where
  | lower
  | capitalized
  | upper
  deriving DecidableEq, Repr

namespace Casing

variable {casing first second : Casing}

/-- A word, written in this way. -/
def write : Casing → List Char → List Char
  | lower, word => word.map Char.toLower
  | capitalized, [] => []
  | capitalized, c :: rest => c.toUpper :: rest.map Char.toLower
  | upper, word => word.map Char.toUpper

/-- Whether a word that is written in this way ends in front of a text. -/
def endsBefore (casing : Casing) (rest : List Char) : Bool :=
  (match casing with
    | upper => beginsCapitalized rest
    | _ => beginsUpper rest) ||
  beginsApart rest

/-- Whether words that are written in these ways are told apart without a separator. -/
def joins : Casing → Casing → Bool
  | upper, second => second = capitalized
  | _, second => second ≠ lower

/-- The last way to write a word counts. -/
@[simp] theorem write_write (first second : Casing) (u : List Char) :
    first.write (second.write u) = first.write u := by
  cases u with
  | nil => cases first <;> cases second <;> rfl
  | cons c u => cases first <;> cases second <;> simp [write]

@[simp] theorem length_write (casing : Casing) (u : List Char) :
    (casing.write u).length = u.length := by
  cases u with
  | nil => cases casing <;> rfl
  | cons c u => cases casing <;> simp [write]

theorem isAlpha_write (hu : ∀ c ∈ u, c.isAlpha = true) :
    ∀ c ∈ casing.write u, c.isAlpha = true := by
  cases u with
  | nil => cases casing <;> exact nofun
  | cons c u =>
    obtain ⟨hc, hmore⟩ := List.forall_mem_cons.mp hu
    cases casing <;> simpa [write, hc] using hmore

theorem toLower_eq_self (hc : c.isAlpha = true) : c.toLower = c ↔ c.isLower = true := by
  constructor
  · intro h
    rw [← h, Char.isLower_toLower_eq_isAlpha, hc]
  · intro h
    exact Char.toLower_eq_of_not_isUpper (Char.not_isUpper_of_isLower h)

theorem toUpper_eq_self (hc : c.isAlpha = true) : c.toUpper = c ↔ c.isUpper = true := by
  constructor
  · intro h
    rw [← h, Char.isUpper_toUpper_eq_isAlpha, hc]
  · intro h
    exact Char.toUpper_eq_of_not_isLower (Char.not_isLower_of_isUpper h)

/-- A text stays as it is if each character does. -/
theorem map_eq_self {f : Char → Char} : u.map f = u ↔ ∀ c ∈ u, f c = c := by
  simpa using List.map_inj_left (g := id)

theorem write_lower_eq_self (hu : ∀ c ∈ u, c.isAlpha = true) :
    lower.write u = u ↔ ∀ c ∈ u, c.isLower = true := by
  rw [write, map_eq_self]
  exact forall₂_congr fun c hc => toLower_eq_self (hu c hc)

theorem write_upper_eq_self (hu : ∀ c ∈ u, c.isAlpha = true) :
    upper.write u = u ↔ ∀ c ∈ u, c.isUpper = true := by
  rw [write, map_eq_self]
  exact forall₂_congr fun c hc => toUpper_eq_self (hu c hc)

theorem write_capitalized_eq_self (hc : c.isAlpha = true) (hu : ∀ c ∈ u, c.isAlpha = true) :
    capitalized.write (c :: u) = c :: u ↔ c.isUpper = true ∧ ∀ d ∈ u, d.isLower = true := by
  rw [write, List.cons_eq_cons, toUpper_eq_self hc]
  exact and_congr_right fun _ => write_lower_eq_self hu

theorem exists_casing {holds : Casing → Prop} :
    (∃ casing, holds casing) ↔ holds lower ∨ holds capitalized ∨ holds upper := by
  constructor
  · rintro ⟨casing, h⟩
    cases casing with
    | lower => exact .inl h
    | capitalized => exact .inr (.inl h)
    | upper => exact .inr (.inr h)
  · rintro (h | h | h)
    all_goals exact ⟨_, h⟩

/-- **A word of letters is written in a way that ends it.** -/
theorem isWordBefore_iff (hlong : 1 < u.length) (hu : ∀ c ∈ u, c.isAlpha = true)
    (hrest : ∀ c ∈ rest, isPlain c = true) :
    IsWordBefore (rest.map ([·])) (u.map ([·])) ↔
      ∃ casing : Casing, casing.write u = u ∧ casing.endsBefore rest = true := by
  match u with
  | c :: d :: v =>
    obtain ⟨hc, hmore⟩ := List.forall_mem_cons.mp hu
    obtain ⟨hd, hv⟩ := List.forall_mem_cons.mp hmore
    rw [exists_casing, write_lower_eq_self hu, write_capitalized_eq_self hc hmore,
      write_upper_eq_self hu]
    simp only [endsBefore, Bool.or_eq_true, List.forall_mem_cons]
    -- The first two letters tell the ways apart.
    have hfirst := isLower_iff_of_isAlpha hc
    have hsecond := isLower_iff_of_isAlpha hd
    cases hcase : c.isLower with
    | true =>
      rw [isWordBefore_of_isLower hcase hmore hrest, List.forall_mem_cons]
      simp [hfirst.mp hcase]
    | false =>
      have hupper : c.isUpper = true := by simpa [hcase] using hfirst
      cases hnext : d.isLower with
      | true =>
        have hsmall : d.isUpper = false := hsecond.mp hnext
        have hgoes : beginsCapitalized (d :: v ++ rest) = false := by
          by_contra h
          have hbegins := beginsUpper_of_beginsCapitalized (by simpa using h)
          exact Bool.false_ne_true (hsmall.symm.trans hbegins)
        rw [isWordBefore_cons_cons hc, endsWord_of_isUpper hupper (isPlain_append hmore hrest),
          hgoes, isWordBefore_of_isLower hnext hv hrest]
        simp [hupper, hsmall]
      | false =>
        have hcapital : d.isUpper = true := by simpa [hnext] using hsecond
        rw [isWordBefore_of_isUpper hupper hcapital hv hrest]
        simp [hupper, hcapital]

/-- Words are told apart if the first one ends in front of the second one. -/
theorem endsBefore_write_append (hlong : 1 < v.length) (hv : ∀ c ∈ v, c.isAlpha = true) :
    first.endsBefore (second.write v ++ rest) = first.joins second := by
  match v with
  | c :: d :: v =>
    obtain ⟨hc, hmore⟩ := List.forall_mem_cons.mp hv
    have hd := hmore d List.mem_cons_self
    have hlower := not_isSeparatorChar_of_isAlpha ((Char.isAlpha_toLower_eq_isAlpha c).trans hc)
    have hupper := not_isSeparatorChar_of_isAlpha ((Char.isAlpha_toUpper_eq_isAlpha c).trans hc)
    -- Nine pairs of casings; the first two letters of the second word decide each.
    cases first <;> cases second <;>
      simp [endsBefore, joins, write, beginsApart, beginsUpper, beginsCapitalized, hc, hd, hlower,
        hupper]

/-- In front of another word, a word ends because of separators or of the ways of the two. -/
theorem endsBefore_separators_iff {separators : List Char}
    (hseparators : ∀ c ∈ separators, isSeparatorChar c = true) (hlong : 1 < v.length)
    (hv : ∀ c ∈ v, c.isAlpha = true) :
    first.endsBefore (separators ++ (second.write v ++ rest)) = true ↔
      (separators = [] → first.joins second = true) := by
  cases separators with
  | nil =>
    rw [List.nil_append, endsBefore_write_append hlong hv]
    simp
  | cons c separators =>
    have hc := hseparators c List.mem_cons_self
    simp [endsBefore, beginsApart, hc]

/-- In front of separators only, every word ends. -/
theorem endsBefore_of_separators (hrest : ∀ c ∈ rest, isSeparatorChar c = true) :
    casing.endsBefore rest = true := by
  have hapart : beginsApart rest = true := by
    cases rest with
    | nil => rfl
    | cons c rest => exact hrest c List.mem_cons_self
  unfold endsBefore
  rw [hapart, Bool.or_true]

/-- The words of a Pascal form are capitalised. -/
theorem capitalize_eq_write (hu : ∀ c ∈ u, c.isAlpha = true) :
    capitalize u = capitalized.write u := by
  cases u with
  | nil => rfl
  | cons c u =>
    obtain ⟨hc, hmore⟩ := List.forall_mem_cons.mp hu
    rw [capitalize, upperChar, if_pos (toNat_lt_of_isAlpha hc),
      lower_eq_map fun d hd => toNat_lt_of_isAlpha (hmore d hd)]
    rfl

end Casing

/-! ## The words of a plain text -/

theorem words_eq_nil_iff (hcs : ∀ c ∈ cs, isPlain c = true) :
    words cs = [] ↔ ∀ c ∈ cs, isSeparatorChar c = true := by
  rw [← isCut_clusters_iff, clusters_of_isPlain hcs, isCut_nil_iff, List.forall_mem_map]
  simp only [isSeparator_singleton]

theorem flatten_map_singleton (cs : List Char) : (cs.map ([·])).flatten = cs := by
  rw [← List.flatMap_def, List.flatMap_singleton']

/-- The first word of a plain text stands behind separators and in front of the other words. -/
theorem words_eq_cons_iff {ws : List (List Char)} (hcs : ∀ c ∈ cs, isPlain c = true) :
    words cs = u :: ws ↔ ∃ front rest, cs = front ++ (u ++ rest) ∧
      (∀ c ∈ front, isSeparatorChar c = true) ∧
      IsWordBefore (rest.map ([·])) (u.map ([·])) ∧ words rest = ws := by
  rw [← isCut_clusters_iff, clusters_of_isPlain hcs, isCut_cons_iff]
  constructor
  · rintro ⟨front, p, rest, hparts, hfront, hp, rfl, hrest⟩
    -- The text falls apart where its clusters do, since each of them is one character.
    obtain ⟨front, tail, rfl, rfl, htail⟩ := List.map_eq_append_iff.mp hparts
    obtain ⟨u, rest, rfl, rfl, rfl⟩ := List.map_eq_append_iff.mp htail
    rw [flatten_map_singleton]
    refine ⟨front, rest, rfl, ?_, hp, ?_⟩
    · simpa only [List.forall_mem_map, isSeparator_singleton] using hfront
    · rwa [← isCut_clusters_iff, clusters_of_isPlain fun c hc => hcs c (by simp [hc])]
  · rintro ⟨front, rest, rfl, hfront, hu, hrest⟩
    rw [← isCut_clusters_iff, clusters_of_isPlain fun c hc => hcs c (by simp [hc])] at hrest
    refine ⟨front.map ([·]), u.map ([·]), rest.map ([·]), ?_, ?_, hu, ?_, hrest⟩
    · rw [List.map_append, List.map_append]
    · simpa only [List.forall_mem_map, isSeparator_singleton] using hfront
    · exact flatten_map_singleton u

/-- The words of a plain text are words of letters. -/
theorem isAlpha_of_mem_words (hcs : ∀ c ∈ cs, isPlain c = true) (hu : u ∈ words cs) :
    ∀ c ∈ u, c.isAlpha = true := by
  intro c hc
  obtain ⟨cluster, hcluster, hword, hcc⟩ := exists_mem_words_iff.mp ⟨u, hu, hc⟩
  rw [clusters_of_isPlain hcs] at hcluster
  obtain ⟨d, hd, rfl⟩ := List.mem_map.mp hcluster
  rw [List.mem_singleton.mp hcc]
  have hplain := hcs d hd
  rw [isSeparator_singleton] at hword
  rwa [isPlain, hword, Bool.or_false] at hplain

/-! ## Pascal forms -/

/-- A word begins with its only capital. -/
def IsCapitalized : List Char → Prop
  | [] => False
  | c :: rest => c.isUpper = true ∧ ∀ d ∈ rest, d.isUpper = false

theorem isCapitalized_write (hne : u ≠ []) (hu : ∀ c ∈ u, c.isAlpha = true) :
    IsCapitalized (Casing.capitalized.write u) := by
  cases u with
  | nil => exact absurd rfl hne
  | cons c u =>
    refine ⟨?_, ?_⟩
    · rw [Char.isUpper_toUpper_eq_isAlpha]
      exact hu c List.mem_cons_self
    · rw [List.forall_mem_map]
      exact fun d _ => Char.isUpper_toLower_eq_false d

/-- Capitalised words are found again in the text that they make up. -/
theorem splitBy_flatten_of_isCapitalized {ws : List (List Char)} (h : ∀ w ∈ ws, IsCapitalized w) :
    ws.flatten.splitBy (fun _ d => !d.isUpper) = ws := by
  refine List.splitBy_flatten ?_ ?_ ?_
  · exact fun hnil => h [] hnil
  · intro w hw
    match w, h w hw with
    | c :: rest, ⟨_, hrest⟩ =>
      refine List.isChain_iff_getElem.mpr fun i hi => ?_
      simpa using hrest _ (List.getElem_mem (by simpa using hi))
  · -- A word starts with a capital, so a cut is made in front of each but the first.
    refine List.isChain_iff_getElem.mpr fun i hi => ?_
    have hfirst := h _ (List.getElem_mem (Nat.lt_of_succ_lt hi))
    have hsecond := h _ (List.getElem_mem hi)
    refine ⟨?_, ?_, ?_⟩
    · intro hnil
      rwa [hnil] at hfirst
    · intro hnil
      rwa [hnil] at hsecond
    · generalize ws[i + 1] = w at hsecond
      match w, hsecond with
      | c :: rest, ⟨hc, _⟩ => exact congrArg (! ·) hc

/-- The Pascal form of a plain text shows the words of the text. -/
theorem pascalCase_eq_flatten_iff {names : List (List Char)} (hcs : ∀ c ∈ cs, isPlain c = true)
    (hnames : ∀ name ∈ names, IsCapitalized name) :
    pascalCase cs = names.flatten ↔ (words cs).map Casing.capitalized.write = names := by
  have hletters : ∀ u ∈ words cs, ∀ c ∈ u, c.isAlpha = true := fun _ => isAlpha_of_mem_words hcs
  have hpascal : pascalCase cs = ((words cs).map Casing.capitalized.write).flatten := by
    rw [pascalCase, List.map_congr_left fun u hu => Casing.capitalize_eq_write (hletters u hu)]
  -- Both lists consist of capitalized words, so they can be read back from their text.
  have hwords : ∀ name ∈ (words cs).map Casing.capitalized.write, IsCapitalized name := by
    refine List.forall_mem_map.mpr fun u hu => isCapitalized_write ?_ (hletters u hu)
    simpa using (List.mem_filter.mp hu).2
  rw [hpascal]
  constructor
  · intro h
    rw [← splitBy_flatten_of_isCapitalized hwords, h, splitBy_flatten_of_isCapitalized hnames]
  · intro h
    rw [h]

end RouteRegistrar.Text
