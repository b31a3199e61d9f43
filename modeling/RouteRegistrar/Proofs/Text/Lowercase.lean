import Mathlib.Data.List.Chain
import RouteRegistrar.Proofs.Text.Words
import RouteRegistrar.Proofs.Token.Names

/-!
# Names in lower case

What is left of an identifier in lower case may stand in an identifier again. This is a fact about
the tables: each run of letters is mapped into one range of the code points that continue an
identifier, except for the circled letters, which are in no identifier. From letters it passes on to
texts, and from these to the snake form, which consists of the words of a name and of low lines.
-/

namespace RouteRegistrar.Text

/-! ## Comparing tables -/

namespace Ranges

variable {ranges inner outer : Ranges} {code : Nat}

/-- Later ranges do not begin in front of earlier ones. -/
def IsAscending (ranges : Ranges) : Prop := ranges.Pairwise fun range other => range.1 ≤ other.1

/-- A code point is in a table in ascending order if it is in one of the ranges. -/
theorem contains_iff (h : ranges.IsAscending) :
    ranges.contains code = true ↔ ∃ range ∈ ranges, range.1 ≤ code ∧ code ≤ range.2 := by
  induction ranges with
  | nil => simp
  | cons range rest ih =>
    obtain ⟨hfirst, hrest⟩ := List.pairwise_cons.mp h
    rw [contains, List.exists_mem_cons_iff, ← ih hrest]
    split
    case isTrue hbefore =>
      -- In front of the first range there is no other one either.
      refine ⟨fun hfound => absurd hfound Bool.false_ne_true, fun hfound => ?_⟩
      rcases hfound with ⟨hle, -⟩ | hlater
      · omega
      · obtain ⟨other, hother, hle, -⟩ := (ih hrest).mp hlater
        have := hfirst other hother
        omega
    case isFalse hbehind =>
      rw [Bool.or_eq_true, decide_eq_true_iff, and_iff_right (Nat.le_of_not_lt hbehind)]

/-- Whether a range is a part of another one. -/
def includes (outer inner : Nat × Nat) : Bool :=
  Nat.ble outer.1 inner.1 && Nat.ble inner.2 outer.2

theorem includes_iff {outer inner : Nat × Nat} :
    includes outer inner = true ↔ outer.1 ≤ inner.1 ∧ inner.2 ≤ outer.2 := by
  rw [includes, Bool.and_eq_true, Nat.ble_eq, Nat.ble_eq]

/-- What remains of some ranges when each range of a table removes the parts of it in front. -/
def remaining : Ranges → Ranges → Ranges
  | [], inner => inner
  | range :: rest, inner => remaining rest (inner.dropWhile (includes range))

/-- Ranges of which nothing remains are parts of the ranges of the table. -/
theorem exists_includes (h : remaining outer inner = []) {range : Nat × Nat}
    (hrange : range ∈ inner) : ∃ other ∈ outer, includes other range = true := by
  induction outer generalizing inner with
  | nil =>
    rw [remaining] at h
    rw [h] at hrange
    cases hrange
  | cons first rest ih =>
    rw [← List.takeWhile_append_dropWhile (p := includes first) (l := inner)] at hrange
    -- The range is removed by the first one here, or it is left for the others.
    rcases List.mem_append.mp hrange with hremoved | hleft
    · exact ⟨first, List.mem_cons_self, List.mem_takeWhile_imp hremoved⟩
    · obtain ⟨other, hother, hincludes⟩ := ih h hleft
      exact ⟨other, List.mem_cons_of_mem _ hother, hincludes⟩

end Ranges

/-! ## Code points of identifiers -/

theorem isAscending_idContinue : Ranges.IsAscending Table.idContinue :=
  List.isChain_iff_pairwise.mp (by decide +kernel)

theorem isAscending_idStart : Ranges.IsAscending Table.idStart :=
  List.isChain_iff_pairwise.mp (by decide +kernel)

/-- A character that may begin an identifier may also continue one. -/
theorem isIdContinue_of_isIdStart {c : Char} (h : isIdStart c = true) : isIdContinue c = true := by
  have hnone : Ranges.remaining Table.idContinue Table.idStart = [] := by decide +kernel
  obtain ⟨range, hrange, hfirst, hlast⟩ := (Ranges.contains_iff isAscending_idStart).mp h
  obtain ⟨other, hother, hincludes⟩ := Ranges.exists_includes hnone hrange
  rw [Ranges.includes_iff] at hincludes
  refine (Ranges.contains_iff isAscending_idContinue).mpr ⟨other, hother, ?_⟩
  omega

/-- Apart from the mark of a raw identifier, all characters of a name continue identifiers. -/
theorem isIdContinue_of_isNameChar {c : Char} (h : isNameChar c = true) (hmark : c ≠ '#') :
    isIdContinue c = true := by
  rw [isNameChar, Bool.or_eq_true, Bool.or_eq_true, decide_eq_true_iff] at h
  rcases h with (hstart | hcontinue) | hc
  · exact isIdContinue_of_isIdStart hstart
  · exact hcontinue
  · exact absurd hc hmark

theorem toNat_ofNat_of_isValidChar {code : Nat} (h : code.isValidChar) :
    (Char.ofNat code).toNat = code :=
  (congrArg Char.toNat (dif_pos h)).trans rfl

/-- No surrogate continues an identifier. -/
theorem isValidChar_of_contains {code : Nat} (h : Table.idContinue.contains code = true) :
    code.isValidChar := by
  -- No range of the table contains surrogates or goes beyond the last character.
  have hvalid : Table.idContinue.all (fun range => Nat.ble range.2 0xd7ff ||
      (Nat.ble 0xe000 range.1 && Nat.ble range.2 0x10ffff)) = true := by
    decide +kernel
  obtain ⟨range, hrange, hfirst, hlast⟩ := (Ranges.contains_iff isAscending_idContinue).mp h
  have hbounds := List.all_eq_true.mp hvalid range hrange
  simp only [Bool.or_eq_true, Bool.and_eq_true, Nat.ble_eq] at hbounds
  rw [Nat.isValidChar]
  omega

/-! ## Lower case -/

/-- A code point is moved by a run that it lies in, or stays. -/
theorem runOffset_cases (runs : List Table.CaseRun) (code : Nat) :
    runOffset runs code = 0 ∨
      ∃ run ∈ runs, run.first ≤ code ∧ code ≤ run.last ∧ runOffset runs code = run.offset := by
  induction runs with
  | nil => exact .inl rfl
  | cons run rest ih =>
    rw [runOffset]
    split
    case isTrue => exact .inl rfl
    case isFalse hfirst =>
      split
      case isTrue hfound =>
        rw [Bool.and_eq_true, decide_eq_true_iff] at hfound
        exact .inr ⟨run, List.mem_cons_self, Nat.le_of_not_lt hfirst, hfound.1, rfl⟩
      case isFalse =>
        rcases ih with hnone | ⟨other, hother, hrun⟩
        · exact .inl hnone
        · exact .inr ⟨other, List.mem_cons_of_mem _ hother, hrun⟩

/-- Whether a run is moved into a range. -/
def movesInto (run : Table.CaseRun) (range : Nat × Nat) : Bool :=
  Nat.ble (range.1 + (-run.offset).toNat) (run.first + run.offset.toNat) &&
    Nat.ble (run.last + run.offset.toNat) (range.2 + (-run.offset).toNat)

/-- Whether a run has no code point in a range. -/
def avoids (run : Table.CaseRun) (range : Nat × Nat) : Bool :=
  Nat.blt range.2 run.first || Nat.blt run.last range.1

/-- Runs that lead out of the identifiers do not begin there. -/
theorem movesInto_or_avoids {run : Table.CaseRun} (h : run ∈ Table.lowerRuns) :
    (∃ range ∈ Table.idContinue, movesInto run range = true) ∨
      ∀ range ∈ Table.idContinue, avoids run range = true := by
  have hruns : Table.lowerRuns.all (fun run => Table.idContinue.any (movesInto run) ||
      Table.idContinue.all (avoids run)) = true := by
    decide +kernel
  have hrun := List.all_eq_true.mp hruns run h
  rwa [Bool.or_eq_true, List.any_eq_true, List.all_eq_true] at hrun

/-- The runs of the lower case keep code points in identifiers. -/
theorem contains_lowered {code : Nat} (h : Table.idContinue.contains code = true) :
    Table.idContinue.contains ((code : Int) + runOffset Table.lowerRuns code).toNat = true := by
  rcases runOffset_cases Table.lowerRuns code with hnone | ⟨run, hrun, hfirst, hlast, hoffset⟩
  · rw [hnone, Int.add_zero, Int.toNat_natCast]
    exact h
  · obtain ⟨range, hrange, hlow, hhigh⟩ := (Ranges.contains_iff isAscending_idContinue).mp h
    rw [hoffset, Ranges.contains_iff isAscending_idContinue]
    -- A run of capitals is moved as a whole into a range, or it meets no range of names.
    rcases movesInto_or_avoids hrun with ⟨target, htarget, hmoves⟩ | havoids
    · rw [movesInto, Bool.and_eq_true, Nat.ble_eq, Nat.ble_eq] at hmoves
      refine ⟨target, htarget, ?_⟩
      omega
    · have hrangeAvoids := havoids range hrange
      rw [avoids, Bool.or_eq_true, Nat.blt_eq, Nat.blt_eq] at hrangeAvoids
      omega

/-- In lower case, a character that continues identifiers becomes such characters. -/
theorem isIdContinue_lowerChar {c d : Char} (h : isIdContinue c = true) (hd : d ∈ lowerChar c) :
    isIdContinue d = true := by
  rw [lowerChar] at hd
  -- Three ways to get a lower case: an ASCII letter, an expansion, and an offset in the table.
  split at hd
  case isTrue hascii =>
    have hletters : ∀ code ∈ List.range 128, Table.idContinue.contains code = true →
        Table.idContinue.contains (Char.ofNat code).toLower.toNat = true := by
      decide +kernel
    rw [List.mem_singleton.mp hd, isIdContinue]
    have hlower := hletters c.toNat (List.mem_range.mpr hascii) h
    rwa [Char.ofNat_toNat] at hlower
  case isFalse =>
    unfold mapCase at hd
    split at hd
    case h_1 codes hcodes =>
      have hexpansions : ∀ entry ∈ Table.lowerExpansions, ∀ code ∈ entry.2,
          isIdContinue (Char.ofNat code) = true := by
        decide +kernel
      obtain ⟨before, behind, htable, -⟩ := List.lookup_eq_some_iff.mp hcodes
      obtain ⟨code, hcode, rfl⟩ := List.mem_map.mp hd
      exact hexpansions (c.toNat, codes) (by rw [htable]; simp) code hcode
    case h_2 =>
      have hlowered := contains_lowered h
      rw [List.mem_singleton.mp hd, isIdContinue,
        toNat_ofNat_of_isValidChar (isValidChar_of_contains hlowered)]
      exact hlowered

/-- A text that continues identifiers does so in lower case. -/
theorem isIdContinue_lower {cs : List Char} (h : ∀ c ∈ cs, isIdContinue c = true) :
    ∀ c ∈ lower cs, isIdContinue c = true := by
  rw [lower]
  generalize ([] : List Char) = before
  induction cs generalizing before with
  | nil => exact nofun
  | cons c rest ih =>
    obtain ⟨hc, hrest⟩ := List.forall_mem_cons.mp h
    rw [lowerFrom]
    split
    case isTrue =>
      -- The last sigma of a word has a form of its own.
      have hsigma : isIdContinue 'ς' = true ∧ isIdContinue 'σ' = true := by decide +kernel
      refine List.forall_mem_cons.mpr ⟨?_, ih hrest _⟩
      split
      case isTrue => exact hsigma.1
      case isFalse => exact hsigma.2
    case isFalse =>
      exact List.forall_mem_append.mpr ⟨fun d => isIdContinue_lowerChar hc, ih hrest _⟩

/-! ## Words -/

/-- What holds of a separator and of some texts holds of the texts joined by it. -/
theorem forall_mem_intercalate {holds : Char → Prop} {separator : List Char}
    {texts : List (List Char)} (hseparator : ∀ c ∈ separator, holds c)
    (htexts : ∀ text ∈ texts, ∀ c ∈ text, holds c) :
    ∀ c ∈ separator.intercalate texts, holds c := by
  induction texts with
  | nil => exact nofun
  | cons text rest ih =>
    obtain ⟨htext, hrest⟩ := List.forall_mem_cons.mp htexts
    cases rest with
    | nil => simpa using htext
    | cons second rest =>
      rw [List.intercalate_cons_cons]
      exact List.forall_mem_append.mpr
        ⟨List.forall_mem_append.mpr ⟨htext, hseparator⟩, ih hrest⟩

/-- The snake form of a text that continues identifiers does so as well. -/
theorem isIdContinue_snakeCase {cs : List Char} (h : ∀ c ∈ cs, isIdContinue c = true) :
    ∀ c ∈ snakeCase cs, isIdContinue c = true := by
  have hlow : isIdContinue '_' = true := by decide +kernel
  refine forall_mem_intercalate (List.forall_mem_singleton.mpr hlow) ?_
  rw [List.forall_mem_map]
  intro word hword
  refine isIdContinue_lower fun c hc => h c ?_
  -- The words are made of characters of the text; only the underscores are new.
  obtain ⟨cluster, hcluster, -, hcc⟩ := exists_mem_words_iff.mp ⟨word, hword, hc⟩
  rw [← flatten_clusters cs]
  exact List.mem_flatten.mpr ⟨cluster, hcluster, hcc⟩

end RouteRegistrar.Text
