import Mathlib.Data.List.Nodup
import Mathlib.Data.List.Perm.Subperm
import Mathlib.Data.Nat.Find
import Mathlib.Order.Bounds.Basic
import RouteRegistrar.Proofs.Text.Lowercase
import RouteRegistrar.Proofs.Token.Identifiers
import RouteRegistrar.Route.Handle

/-!
# Handles are unique and minimal

The handles of a plan are given out one after the other. Each group tries the plain handle of its
type and then the handles with a number appended, and takes the first one that is free. Of the first
`n + 1` handles that are tried, one is free if `n` have been taken, since all of them are different.
So the search ends, and it ends at the least number.

A handle is an identifier if the name of the type is one, raw or not.
-/

namespace RouteRegistrar

open Text Token

namespace Handle

variable {handle : String} {taken names : List String}

/-! ## Numbered handles -/

/-- The handle that is tried after `k` others. The first one has no number. -/
def numbered (base : String) : Nat → String
  | 0 => base
  | k + 1 => base ++ "_" ++ toString (k + 1)

theorem candidates_eq_map (base : String) (taken : Nat) :
    candidates base taken = (List.range (taken + 1)).map (numbered base) := by
  rw [List.range_succ_eq_map, List.map_cons, List.map_map]
  rfl

theorem toList_numbered_succ (base : String) (k : Nat) :
    (numbered base (k + 1)).toList = base.toList ++ '_' :: Nat.toDigits 10 (k + 1) := by
  simp [numbered]

theorem numbered_injective (base : String) : Function.Injective (numbered base) := by
  -- A number makes the handle longer, so it is not the base itself.
  have hplain : ∀ k, numbered base (k + 1) ≠ base := by
    intro k h
    have hlength := congrArg (List.length ∘ String.toList) h
    simp [toList_numbered_succ] at hlength
  intro j k h
  cases j with
  | zero =>
    cases k with
    | zero => rfl
    | succ k => exact absurd h.symm (hplain k)
  | succ j =>
    cases k with
    | zero => exact absurd h (hplain j)
    | succ k =>
      -- Behind the same base and underscore, the digits determine the number.
      have hdigits := congrArg String.toList h
      rw [toList_numbered_succ, toList_numbered_succ, List.append_cancel_left_eq,
        List.cons.injEq] at hdigits
      rw [← Nat.ofDigitChars_ten_toDigits (n := j + 1), hdigits.2, Nat.ofDigitChars_ten_toDigits]

/-- Every handle that is tried begins like the handle of a type. -/
theorem isPrefix_numbered (typeName : String) (k : Nat) :
    "api_".toList <+: (numbered (Handle.base typeName) k).toList := by
  have hbase : "api_".toList <+: (Handle.base typeName).toList := by
    simp [Handle.base, String.toList_append]
  cases k with
  | zero => exact hbase
  | succ k => exact toList_numbered_succ _ k ▸ hbase.trans (List.prefix_append ..)

/-! ## The search -/

/-- One of the first handles is free, since they are more than the taken ones. -/
theorem exists_free (taken : List String) (base : String) :
    ∃ k ≤ taken.length, numbered base k ∉ taken := by
  by_contra hnone
  -- Otherwise all these candidates are taken, and they are more than there are taken names.
  have hsubset : (List.range (taken.length + 1)).map (numbered base) ⊆ taken := by
    intro handle hhandle
    obtain ⟨k, hk, rfl⟩ := List.mem_map.mp hhandle
    by_contra hfree
    exact hnone ⟨k, Nat.le_of_lt_succ (List.mem_range.mp hk), hfree⟩
  have hnodup : ((List.range (taken.length + 1)).map (numbered base)).Nodup :=
    List.nodup_range.map (numbered_injective base)
  have hlength := (hnodup.subperm hsubset).length_le
  rw [List.length_map, List.length_range] at hlength
  omega

/-- The search ends at the least number whose handle is free. -/
theorem fresh_spec (taken : List String) (base : String) : ∃ k ≤ taken.length,
    IsLeast {k | numbered base k ∉ taken} k ∧ fresh taken base = numbered base k := by
  obtain ⟨bound, hbound, hfree⟩ := exists_free taken base
  have hexists : ∃ k, numbered base k ∉ taken := ⟨bound, hfree⟩
  refine ⟨Nat.find hexists, (Nat.find_min' hexists hfree).trans hbound,
    ⟨Nat.find_spec hexists, fun k hk => Nat.find_min' hexists hk⟩, ?_⟩
  -- The search goes through the candidates in order, so it stops at the least free one.
  have hfirst : (List.range (taken.length + 1)).find?
      ((!taken.contains ·) ∘ numbered base) = some (Nat.find hexists) := by
    refine List.find?_range_eq_some.mpr ⟨by simpa using Nat.find_spec hexists, ?_, ?_⟩
    · exact List.mem_range.mpr
        (Nat.lt_succ_of_le ((Nat.find_min' hexists hfree).trans hbound))
    · intro k hk
      simpa using Nat.find_min hexists hk
  rw [fresh, candidates_eq_map, List.find?_map, hfirst]
  rfl

/-- A handle that is given out was not taken. -/
theorem fresh_not_mem (taken : List String) (base : String) : fresh taken base ∉ taken := by
  obtain ⟨k, -, hleast, hfresh⟩ := fresh_spec taken base
  rw [hfresh]
  exact hleast.1

/-! ## Handles in a row -/

theorem length_assign (taken names : List String) :
    (assign taken names).length = names.length := by
  induction names generalizing taken with
  | nil => rfl
  | cons name rest ih => rw [assign, List.length_cons, List.length_cons, ih]

/-- Each handle is searched among those that are not taken by the handles in front of it. -/
theorem getElem?_assign (taken names : List String) (i : Nat) :
    (assign taken names)[i]? =
      names[i]?.map fun name => fresh (taken ++ (assign taken names).take i) (base name) := by
  induction names generalizing taken i with
  | nil => rfl
  | cons name rest ih =>
    rw [assign]
    cases i with
    | zero => simp
    -- The first handle has been taken by then, so it moves to those that are taken.
    | succ i =>
      rw [List.getElem?_cons_succ, List.getElem?_cons_succ, ih, List.take_succ_cons,
        List.append_assoc, List.singleton_append]

/-- Each handle is a handle of a type with a number. -/
theorem exists_numbered_of_mem_assign (h : handle ∈ assign taken names) :
    ∃ name ∈ names, ∃ k, handle = numbered (base name) k := by
  obtain ⟨i, hi⟩ := List.mem_iff_getElem?.mp h
  rw [getElem?_assign, Option.map_eq_some_iff] at hi
  obtain ⟨name, hname, rfl⟩ := hi
  obtain ⟨k, -, -, hfresh⟩ := fresh_spec (taken ++ (assign taken names).take i) (base name)
  exact ⟨name, List.mem_of_getElem? hname, k, hfresh⟩

/-- No handle is given out twice, and none that is taken. -/
theorem nodup_append_assign (h : taken.Nodup) : (taken ++ assign taken names).Nodup := by
  induction names generalizing taken with
  | nil => simpa [assign] using h
  | cons name rest ih =>
    have hnext : (taken ++ [fresh taken (base name)]).Nodup := by
      rw [← List.concat_eq_append]
      exact h.concat (fresh_not_mem taken (base name))
    rw [assign, ← List.singleton_append, ← List.append_assoc]
    exact ih hnext

/-- The handles of further types come behind. -/
theorem assign_append (taken names more : List String) :
    assign taken (names ++ more) =
      assign taken names ++ assign (taken ++ assign taken names) more := by
  induction names generalizing taken with
  | nil => simp [assign]
  | cons name rest ih =>
    rw [List.cons_append, assign, assign, ih, List.cons_append, List.append_assoc,
      List.singleton_append]

/-! ## Identifiers -/

/-- The plain handle of a type is an identifier if the name of the type is one. -/
theorem isIdContinue_base {typeName : String} (h : IsIdent typeName) :
    ∀ c ∈ (base typeName).toList, isIdContinue c = true := by
  have hprefix : "api_".toList.all isIdContinue = true := by decide +kernel
  rw [base, String.toList_append]
  refine List.forall_mem_append.mpr ⟨List.all_eq_true.mp hprefix, ?_⟩
  rw [String.toList_ofList]
  refine isIdContinue_snakeCase fun c hc => ?_
  obtain ⟨hname, hkeeps⟩ := List.mem_filter.mp hc
  -- The mark of a raw identifier is not kept.
  have hmark : c ≠ '#' := by
    rintro rfl
    have hnone : keeps '#' = false := by decide +kernel
    rw [hnone] at hkeeps
    cases hkeeps
  refine isIdContinue_of_isNameChar ?_ hmark
  by_contra hother
  exact not_mem_of_ident? h (Bool.eq_false_iff.mpr hother) hname

/-- A number behind a handle leaves it an identifier. -/
theorem isIdentifier_numbered {typeName : String} (h : IsIdent typeName) (k : Nat) :
    isIdentifier (numbered (base typeName) k).toList = true := by
  -- All characters of a type name may go on a name; so may an underscore and digits.
  have hall : ∀ c ∈ (numbered (base typeName) k).toList, isIdContinue c = true := by
    cases k with
    | zero => exact isIdContinue_base h
    | succ k =>
      have hlow : isIdContinue '_' = true := by decide +kernel
      rw [toList_numbered_succ]
      exact List.forall_mem_append.mpr ⟨isIdContinue_base h,
        List.forall_mem_cons.mpr ⟨hlow, fun _ => isIdContinue_of_mem_toDigits⟩⟩
  obtain ⟨behind, hbehind⟩ := isPrefix_numbered typeName k
  -- The handle begins with `a`, whatever the type is called.
  have hletter : isIdStart 'a' = true := by decide +kernel
  rw [← hbehind] at hall ⊢
  rw [show "api_".toList ++ behind = 'a' :: ("pi_".toList ++ behind) from rfl] at hall ⊢
  rw [isIdentifier, hletter, Bool.true_and, List.all_eq_true]
  exact (List.forall_mem_cons.mp hall).2

end Handle

/-! ## Plans -/

/-- Texts that have to be identifiers are kept as they are if each of them is one. -/
theorem mapM_identifier_eq_ok_iff {texts names : List String} :
    texts.mapM identifier = .ok names ↔
      names = texts ∧ ∀ text ∈ texts, isIdentifier text.toList = true := by
  -- An identifier is taken as it is; any other text ends the pass.
  have hstep : ∀ text name, identifier text = .ok name ↔
      name = text ∧ isIdentifier text.toList = true := by
    intro text name
    rw [identifier]
    split
    case isTrue htext => simp [htext, eq_comm]
    case isFalse htext => simp [htext]
  induction texts generalizing names with
  | nil =>
    rw [List.mapM_nil]
    constructor
    · intro h
      exact ⟨(Except.ok.inj h).symm, nofun⟩
    · rintro ⟨rfl, -⟩
      rfl
  | cons text rest ih =>
    rw [mapM_cons_eq_ok, List.forall_mem_cons]
    constructor
    · rintro ⟨name, more, hname, hmore, rfl⟩
      obtain ⟨rfl, htext⟩ := (hstep text name).mp hname
      obtain ⟨rfl, hrest⟩ := ih.mp hmore
      exact ⟨rfl, htext, hrest⟩
    · rintro ⟨rfl, htext, hrest⟩
      exact ⟨text, rest, (hstep text text).mpr ⟨rfl, htext⟩, ih.mpr ⟨rfl, hrest⟩, rfl⟩

namespace Plan

/-- No handle is the variable of the main router. -/
theorem app_not_mem_handleTexts (plan : Plan) : "app" ∉ plan.handleTexts := by
  intro hmem
  obtain ⟨name, -, k, happ⟩ := Handle.exists_numbered_of_mem_assign hmem
  have hprefix := Handle.isPrefix_numbered name k
  rw [← happ] at hprefix
  exact absurd hprefix (by decide)

/-- **Handles are unique and minimal**: every plan has one handle for each group, all of them
different and none of them the main router. A handle is that of its type with the least number that
the groups in front leave free, which is at most the number of these groups; groups behind do not
matter. The handles are given out if all of them are identifiers, and so they are for types that are
named by identifiers, raw or not. -/
theorem handles_unique_minimal (plan : Plan) :
    plan.handleTexts.length = plan.groups.length ∧ plan.handleTexts.Nodup ∧
      "app" ∉ plan.handleTexts ∧
      (∀ i group, plan.groups[i]? = some group → ∃ k ≤ i,
        IsLeast {k | Handle.numbered (Handle.base group.typeName) k ∉ plan.handleTexts.take i} k ∧
        plan.handleTexts[i]? = some (Handle.numbered (Handle.base group.typeName) k)) ∧
      (∀ behind, (Plan.mk (plan.groups ++ behind)).handleTexts.take plan.groups.length =
        plan.handleTexts) ∧
      (∀ handles, plan.handles = .ok handles ↔ handles = plan.handleTexts ∧
        ∀ handle ∈ plan.handleTexts, isIdentifier handle.toList = true) ∧
      ((∀ group ∈ plan.groups, IsIdent group.typeName) → plan.handles = .ok plan.handleTexts) := by
  have hlength : plan.handleTexts.length = plan.groups.length := by
    rw [handleTexts, Handle.length_assign, List.length_map]
  refine ⟨hlength, ?_, app_not_mem_handleTexts plan, ?_, ?_, ?_, ?_⟩
  · exact Handle.nodup_append_assign List.nodup_nil
  · intro i group hgroup
    have hbefore : (plan.handleTexts.take i).length ≤ i := List.length_take_le ..
    obtain ⟨k, hk, hleast, hfresh⟩ :=
      Handle.fresh_spec (plan.handleTexts.take i) (Handle.base group.typeName)
    refine ⟨k, hk.trans hbefore, hleast, ?_⟩
    rw [handleTexts, Handle.getElem?_assign, List.getElem?_map, hgroup, ← hfresh]
    rfl
  · intro behind
    -- Groups behind are given their handles after those in front.
    have hmore : (Plan.mk (plan.groups ++ behind)).handleTexts =
        plan.handleTexts ++ Handle.assign plan.handleTexts (behind.map (·.typeName)) := by
      rw [handleTexts, List.map_append, Handle.assign_append]
      rfl
    rw [hmore, ← hlength]
    exact List.take_left
  · exact fun handles => mapM_identifier_eq_ok_iff
  · intro hnames
    refine mapM_identifier_eq_ok_iff.mpr ⟨rfl, fun handle hhandle => ?_⟩
    -- Every handle is the numbered base of the name of some group.
    obtain ⟨name, hname, k, rfl⟩ := Handle.exists_numbered_of_mem_assign hhandle
    obtain ⟨group, hgroup, rfl⟩ := List.mem_map.mp hname
    exact Handle.isIdentifier_numbered (hnames group hgroup) k

/-- A plan with a group for each of the given types. -/
def ofTypeNames (typeNames : List String) : Plan :=
  ⟨typeNames.map fun typeName => ⟨typeName, none, .literal "", []⟩⟩

/-- A handle with a number may be the plain handle of another type, which then gets a number of its
own. -/
theorem handles_unique_minimal_of_services :
    (ofTypeNames ["Service", "Service", "Service1", "r#type"]).handles =
      .ok ["api_service", "api_service_1", "api_service_1_1", "api_rtype"] := by
  have hnames : ∀ group ∈ (ofTypeNames ["Service", "Service", "Service1", "r#type"]).groups,
      IsIdent group.typeName := by
    decide +kernel
  obtain ⟨-, -, -, -, -, -, hhandles⟩ :=
    handles_unique_minimal (ofTypeNames ["Service", "Service", "Service1", "r#type"])
  rw [hhandles hnames]
  decide +kernel

end Plan

end RouteRegistrar
