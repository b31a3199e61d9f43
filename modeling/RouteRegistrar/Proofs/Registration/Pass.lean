import RouteRegistrar.Proofs.Registration.Extraction
import RouteRegistrar.Proofs.Registration.Handles
import RouteRegistrar.Route.Artifact

/-!
# How a pass ends

A pass asks its token before the first artifact, in front of each type, before the second artifact
and at its end. A token that has fired stays fired, so the last check that is reached tells whether
any of them has seen it fired.

Rendering is in the way between the last two checks. It aborts if a handle is no identifier or if
the registrations are accepted source without a printed form, and then the last check is not made.
So a pass succeeds if none of its checks sees the token fired and it would succeed without a token
(`Program.generate_eq_ok_iff`), and what it gives then is known from its types, its settings and its
entry point (`Program.generate_never_eq_ok_iff`). `Program.generate_eq_error` says how it can fail.
-/

namespace RouteRegistrar

/-! ## Tokens -/

namespace CancellationToken

/-- A token stays cancelled. -/
theorem isCancelledAt_mono {token : CancellationToken} {check later : Nat} (hle : check ≤ later)
    (h : token.isCancelledAt check = true) : token.isCancelledAt later = true := by
  unfold isCancelledAt at h ⊢
  cases hfires : token.firesAt with
  | none => simp [hfires] at h
  | some first =>
    have hfirst : first ≤ check := by simpa [hfires] using h
    simpa using Nat.le_trans hfirst hle

/-- Some of the first checks see a token cancelled exactly if the last of them does. -/
theorem exists_lt_isCancelledAt {token : CancellationToken} {count : Nat} :
    (∃ check < count + 1, token.isCancelledAt check = true) ↔ token.isCancelledAt count = true := by
  constructor
  · rintro ⟨check, hcheck, h⟩
    exact isCancelledAt_mono (Nat.le_of_lt_succ hcheck) h
  · intro h
    exact ⟨count, Nat.lt_succ_self count, h⟩

theorem guardAt_of_cancelled {token : CancellationToken} {check : Nat}
    (h : token.isCancelledAt check = true) : token.guardAt check = .error .cancelled := by
  rw [guardAt, if_pos h]

theorem guardAt_of_not_cancelled {token : CancellationToken} {check : Nat}
    (h : token.isCancelledAt check = false) : token.guardAt check = .ok () := by
  rw [guardAt, if_neg (by simp [h])]

theorem not_cancelled_of_le {token : CancellationToken} {check later : Nat} (hle : check ≤ later)
    (h : token.isCancelledAt later = false) : token.isCancelledAt check = false := by
  cases hcheck : token.isCancelledAt check with
  | false => rfl
  | true =>
    have hlater := isCancelledAt_mono hle hcheck
    rw [h] at hlater
    cases hlater

@[simp] theorem isCancelledAt_never (check : Nat) : never.isCancelledAt check = false := rfl

end CancellationToken

/-! ## Plans -/

namespace Program

/-- The checks of a pass, by their numbers. -/
def checks (program : Program) : List Nat := List.range (program.types.length + 3)

/-- The plan of a program if nothing is cancelled. -/
def fullPlan (program : Program) : Plan := ⟨program.types.filterMap program.group?⟩

/-- The groups are not collected if a check among the types sees the token cancelled. -/
theorem groupsOf_of_cancelled (program : Program) {token : CancellationToken}
    (declarations : List Declaration) :
    ∀ check, (∃ i < declarations.length, token.isCancelledAt (check + i) = true) →
      program.groupsOf token check declarations = .error .cancelled := by
  induction declarations with
  | nil =>
    rintro check ⟨i, hi, -⟩
    cases hi
  | cons declaration rest ih =>
    rintro check ⟨i, hi, hcancelled⟩
    rw [groupsOf]
    cases hfirst : token.isCancelledAt check with
    | true =>
      rw [CancellationToken.guardAt_of_cancelled hfirst]
      rfl
    | false =>
      -- The first type passes, so the check that fails stands in front of a later one.
      have hpos : i ≠ 0 := by
        rintro rfl
        rw [Nat.add_zero, hfirst] at hcancelled
        cases hcancelled
      obtain ⟨j, rfl⟩ := Nat.exists_eq_succ_of_ne_zero hpos
      have hrest := ih (check + 1) ⟨j, Nat.lt_of_succ_lt_succ hi, by
        rwa [Nat.add_assoc, Nat.add_comm 1 j]⟩
      rw [CancellationToken.guardAt_of_not_cancelled hfirst, hrest]
      rfl

/-- The plan of a program, if no check up to the last type sees the token cancelled. -/
theorem plan_of_not_cancelled {program : Program} {token : CancellationToken}
    (h : token.isCancelledAt program.types.length = false) :
    program.plan token 1 = .ok program.fullPlan := by
  rw [plan, groupsOf_eq_ok]
  · rfl
  · intro i hi
    exact CancellationToken.not_cancelled_of_le (by omega) h

/-- There is no plan if a check in front of a type sees the token cancelled. -/
theorem plan_of_cancelled {program : Program} {token : CancellationToken}
    (hpos : program.types ≠ [])
    (h : token.isCancelledAt program.types.length = true) :
    program.plan token 1 = .error .cancelled := by
  have hlength : 0 < program.types.length := List.length_pos_iff.mpr hpos
  rw [plan, groupsOf_of_cancelled]
  · rfl
  · refine ⟨program.types.length - 1, by omega, ?_⟩
    rwa [Nat.add_sub_cancel' hlength]

end Program

/-! ## Artifacts -/

/-- Tokens that have a text: either they are no source file, or each part of it has a printed
form. -/
def Token.HasText (tokens : List Token) : Prop := ∃ text, Token.sourceText tokens = .ok text

theorem Token.isAbort_of_sourceText {tokens : List Token} {failure : Failure}
    (h : Token.sourceText tokens = .error failure) : failure.isAbort = true := by
  unfold Token.sourceText at h
  split at h
  case h_1 tree _ =>
    split at h
    case isTrue => cases h
    case isFalse =>
      cases h
      rfl
  case h_2 => cases h

/-- An artifact has the name it is meant for. -/
theorem Artifact.name_of_ofTokens {name modulePath : String} {tokens : List Token}
    {artifact : Artifact} (h : Artifact.ofTokens name modulePath tokens = .ok artifact) :
    artifact.name = name := by
  obtain ⟨text, -, hartifact⟩ := bind_eq_ok.mp h
  rw [← Except.ok.inj hartifact]

theorem Artifact.exists_ofTokens_iff {name modulePath : String} {tokens : List Token} :
    (∃ artifact, Artifact.ofTokens name modulePath tokens = .ok artifact) ↔
      Token.HasText tokens := by
  constructor
  · rintro ⟨artifact, h⟩
    obtain ⟨text, htext, -⟩ := bind_eq_ok.mp h
    exact ⟨text, htext⟩
  · rintro ⟨text, htext⟩
    exact ⟨_, bind_eq_ok.mpr ⟨text, htext, rfl⟩⟩

namespace Program

/-- The marker types have a printed form. -/
theorem hasText_definitions :
    Token.HasText (RouteMarker.definitions RouteMarker.all Artifact.provenance) := by
  have h : (Token.sourceText
      (RouteMarker.definitions RouteMarker.all Artifact.provenance)).toOption.isSome = true := by
    decide +kernel
  obtain ⟨text, htext⟩ := Option.isSome_iff_exists.mp h
  exact ⟨text, eq_ok_of_toOption htext⟩

/-- The artifact with the marker types can always be made. -/
theorem exists_definitionsArtifact (settings : Settings) (modulePath : String) :
    ∃ definitions, definitionsArtifact settings modulePath = .ok definitions :=
  Artifact.exists_ofTokens_iff.mpr hasText_definitions

end Program

theorem isAbort_of_mapM_identifier {texts : List String} {failure : Failure}
    (h : texts.mapM identifier = .error failure) : failure.isAbort = true := by
  induction texts with
  | nil => cases h
  | cons text rest ih =>
    rw [List.mapM_cons] at h
    -- The first text that is no identifier ends the run, so the failure is about this text.
    rcases bind_eq_error.mp h with hname | ⟨_, -, hmore⟩
    · unfold identifier at hname
      split at hname
      case isTrue => cases hname
      case isFalse =>
        cases hname
        rfl
    · rcases bind_eq_error.mp hmore with hrest | ⟨_, -, hdone⟩
      · exact ih hrest
      · cases hdone

namespace Plan

/-- A plan whose registration function can be written: its handles are identifiers, and the function
has a printed form, unless it is printed as bare tokens. -/
structure IsWritable (plan : Plan) (function : String) : Prop where
  identifiers : ∀ handle ∈ plan.handleTexts, Text.isIdentifier handle.toList = true
  hasText {tokens : List Token} :
    plan.registrations function Artifact.provenance = .ok tokens → Token.HasText tokens

/-- The tokens of the registration function exist exactly if all handles are identifiers. -/
theorem exists_registrations_iff {plan : Plan} {function provenance : String} :
    (∃ tokens, plan.registrations function provenance = .ok tokens) ↔
      ∀ handle ∈ plan.handleTexts, Text.isIdentifier handle.toList = true := by
  -- Only the handles can fail; with them, all tokens are written.
  constructor
  · rintro ⟨tokens, h⟩
    obtain ⟨handles, hhandles, -⟩ := bind_eq_ok.mp h
    exact (mapM_identifier_eq_ok_iff.mp hhandles).2
  · intro hidentifiers
    have hhandles : plan.handles = .ok plan.handleTexts :=
      mapM_identifier_eq_ok_iff.mpr ⟨rfl, hidentifiers⟩
    exact ⟨_, bind_eq_ok.mpr ⟨_, hhandles, rfl⟩⟩

end Plan

namespace Program

variable {program : Program} {settings : Settings} {token : CancellationToken}
  {entryPoint : EntryPoint}

/-- The artifact with the registration function can be made exactly if its plan is writable. -/
theorem exists_registrationsArtifact_iff (modulePath : String) {plan : Plan} :
    (∃ registrations, registrationsArtifact settings modulePath plan = .ok registrations) ↔
      plan.IsWritable settings.registrationFunction := by
  -- First the tokens have to exist, which needs identifiers, and then their text has to be Rust.
  constructor
  · rintro ⟨registrations, h⟩
    obtain ⟨tokens, htokens, hartifact⟩ := bind_eq_ok.mp h
    refine ⟨Plan.exists_registrations_iff.mp ⟨tokens, htokens⟩, fun hother => ?_⟩
    have htext := Artifact.exists_ofTokens_iff.mp ⟨registrations, hartifact⟩
    rw [htokens] at hother
    exact Except.ok.inj hother ▸ htext
  · rintro ⟨hidentifiers, htext⟩
    obtain ⟨tokens, htokens⟩ := Plan.exists_registrations_iff.mpr hidentifiers
    obtain ⟨registrations, hartifact⟩ := Artifact.exists_ofTokens_iff.mpr (htext htokens)
    exact ⟨registrations, bind_eq_ok.mpr ⟨tokens, htokens, hartifact⟩⟩

/-- The registration function cannot be rendered only by aborting. -/
theorem isAbort_of_registrationsArtifact {modulePath : String} {plan : Plan} {failure : Failure}
    (h : registrationsArtifact settings modulePath plan = .error failure) :
    failure.isAbort = true := by
  -- Two steps can fail, the handles and the text, and both abort.
  rcases bind_eq_error.mp h with htokens | ⟨tokens, -, hartifact⟩
  · rcases bind_eq_error.mp htokens with hhandles | ⟨_, -, hrest⟩
    · exact isAbort_of_mapM_identifier hhandles
    · cases hrest
  · rcases bind_eq_error.mp hartifact with htext | ⟨_, -, hrest⟩
    · exact Token.isAbort_of_sourceText htext
    · cases hrest

/-- The artifacts have the names that the settings ask for. -/
theorem name_of_definitionsArtifact {modulePath : String} {definitions : Artifact}
    (h : definitionsArtifact settings modulePath = .ok definitions) :
    definitions.name = settings.attributesArtifact :=
  Artifact.name_of_ofTokens h

theorem name_of_registrationsArtifact {modulePath : String} {plan : Plan}
    {registrations : Artifact}
    (h : registrationsArtifact settings modulePath plan = .ok registrations) :
    registrations.name = settings.registrationsArtifact := by
  obtain ⟨tokens, -, hartifact⟩ := bind_eq_ok.mp h
  exact Artifact.name_of_ofTokens hartifact

/-! ## Results of a pass -/

/-- Without an entry point there is nothing to generate, whatever the token says. -/
theorem generate_of_no_entryPoint (h : program.entryPoint = none) :
    program.generate settings token = .error .missingEntryPoint := by
  rw [generate, h]
  rfl

/-- A pass is cancelled if a check before rendering sees the token cancelled. -/
theorem generate_of_cancelled (hentry : program.entryPoint = some entryPoint)
    (h : token.isCancelledAt (program.types.length + 1) = true) :
    program.generate settings token = .error .cancelled := by
  obtain ⟨definitions, hdefinitions⟩ := exists_definitionsArtifact settings entryPoint.modulePath
  cases hstart : token.isCancelledAt 0 with
  | true =>
    have hguard := CancellationToken.guardAt_of_cancelled hstart
    simp only [generate, hentry, hguard, bind, Except.bind]
  | false =>
    have hguard := CancellationToken.guardAt_of_not_cancelled hstart
    cases htypes : token.isCancelledAt program.types.length with
    | true =>
      -- The token has not fired at the start, so there is a type in front of which it has.
      have hne : program.types ≠ [] := by
        intro hnil
        rw [hnil, List.length_nil, hstart] at htypes
        cases htypes
      have hplan := plan_of_cancelled hne htypes
      simp only [generate, hentry, hguard, hdefinitions, hplan, bind, Except.bind]
    | false =>
      have hplan := plan_of_not_cancelled htypes
      have hbehind := CancellationToken.guardAt_of_cancelled h
      simp only [generate, hentry, hguard, hdefinitions, hplan, hbehind, bind, Except.bind]

/-- A pass that is not cancelled before rendering gives what an undisturbed pass gives, unless the
last check sees the token cancelled. -/
theorem generate_of_not_cancelled (hentry : program.entryPoint = some entryPoint)
    (h : token.isCancelledAt (program.types.length + 1) = false) :
    program.generate settings token = do
      let definitions ← definitionsArtifact settings entryPoint.modulePath
      let registrations ← registrationsArtifact settings entryPoint.modulePath program.fullPlan
      token.guardAt (program.types.length + 2)
      return [definitions, registrations] := by
  -- Cancellation is for good, so at the earlier checks there was none either.
  have hstart := CancellationToken.not_cancelled_of_le (Nat.zero_le _) h
  have htypes := CancellationToken.not_cancelled_of_le (Nat.le_succ _) h
  have hguard := CancellationToken.guardAt_of_not_cancelled hstart
  have hplan := plan_of_not_cancelled htypes
  have hbehind := CancellationToken.guardAt_of_not_cancelled h
  simp only [generate, hentry, hguard, hplan, hbehind, bind, Except.bind]

/-- What an undisturbed pass gives: the two artifacts with the names that the settings ask for. -/
theorem generate_never_eq_ok_iff {artifacts : List Artifact} :
    program.generate settings .never = .ok artifacts ↔
      ∃ entryPoint definitions registrations, program.entryPoint = some entryPoint ∧
        definitionsArtifact settings entryPoint.modulePath = .ok definitions ∧
        registrationsArtifact settings entryPoint.modulePath program.fullPlan =
          .ok registrations ∧ artifacts = [definitions, registrations] := by
  -- Without cancellation two steps are left that can fail, after the entry point is known.
  cases hentry : program.entryPoint with
  | none =>
    rw [generate_of_no_entryPoint hentry]
    constructor
    · exact nofun
    · rintro ⟨_, _, _, hsome, -⟩
      cases hsome
  | some entryPoint =>
    rw [generate_of_not_cancelled hentry (CancellationToken.isCancelledAt_never _)]
    constructor
    · intro h
      obtain ⟨definitions, hdefinitions, h⟩ := bind_eq_ok.mp h
      obtain ⟨registrations, hregistrations, h⟩ := bind_eq_ok.mp h
      exact ⟨entryPoint, definitions, registrations, rfl, hdefinitions, hregistrations,
        (Except.ok.inj h).symm⟩
    · rintro ⟨_, definitions, registrations, hsome, hdefinitions, hregistrations, rfl⟩
      cases hsome
      exact bind_eq_ok.mpr ⟨definitions, hdefinitions,
        bind_eq_ok.mpr ⟨registrations, hregistrations, rfl⟩⟩

/-- An undisturbed pass succeeds exactly if there is an entry point and the plan is writable. -/
theorem exists_generate_never_iff :
    (∃ artifacts, program.generate settings .never = .ok artifacts) ↔
      program.entryPoint ≠ none ∧ program.fullPlan.IsWritable settings.registrationFunction := by
  constructor
  · rintro ⟨artifacts, h⟩
    obtain ⟨entryPoint, _, registrations, hentry, -, hregistrations, -⟩ :=
      generate_never_eq_ok_iff.mp h
    refine ⟨by simp [hentry], ?_⟩
    exact (exists_registrationsArtifact_iff _).mp ⟨registrations, hregistrations⟩
  · rintro ⟨hentry, hwritable⟩
    obtain ⟨entryPoint, hentry⟩ := Option.ne_none_iff_exists'.mp hentry
    -- The definitions can always be written.
    obtain ⟨definitions, hdefinitions⟩ :=
      exists_definitionsArtifact settings entryPoint.modulePath
    obtain ⟨registrations, hregistrations⟩ :=
      (exists_registrationsArtifact_iff entryPoint.modulePath).mpr hwritable
    exact ⟨_, generate_never_eq_ok_iff.mpr ⟨entryPoint, definitions, registrations, hentry,
      hdefinitions, hregistrations, rfl⟩⟩

/-- A pass fails in one of three ways: there is no entry point, it is cancelled, or it aborts. -/
theorem generate_eq_error {failure : Failure}
    (h : program.generate settings token = .error failure) :
    (failure = .missingEntryPoint ∧ program.entryPoint = none) ∨
      (failure = .cancelled ∧ ∃ check ∈ program.checks, token.isCancelledAt check = true) ∨
      failure.isAbort = true := by
  cases hentry : program.entryPoint with
  | none =>
    rw [generate_of_no_entryPoint hentry] at h
    cases h
    exact .inl ⟨rfl, rfl⟩
  | some entryPoint =>
    refine .inr ?_
    cases hbehind : token.isCancelledAt (program.types.length + 1) with
    | true =>
      rw [generate_of_cancelled hentry hbehind] at h
      cases h
      exact .inl ⟨rfl, _, List.mem_range.mpr (by omega), hbehind⟩
    | false =>
      obtain ⟨definitions, hdefinitions⟩ :=
        exists_definitionsArtifact settings entryPoint.modulePath
      rw [generate_of_not_cancelled hentry hbehind, hdefinitions] at h
      -- The definitions never fail, and the checks are passed up to the last one.
      rcases bind_eq_error.mp h with hfirst | ⟨_, -, h⟩
      · cases hfirst
      rcases bind_eq_error.mp h with hregistrations | ⟨_, -, h⟩
      · exact .inr (isAbort_of_registrationsArtifact hregistrations)
      rcases bind_eq_error.mp h with hguard | ⟨_, -, h⟩
      · unfold CancellationToken.guardAt at hguard
        split at hguard
        case isTrue hlast =>
          cases hguard
          exact .inl ⟨rfl, _, List.mem_range.mpr (by omega), hlast⟩
        case isFalse => cases hguard
      · cases h

/-- Some check of a pass sees the token cancelled exactly if the last one does. -/
theorem exists_mem_checks_iff :
    (∃ check ∈ program.checks, token.isCancelledAt check = true) ↔
      token.isCancelledAt (program.types.length + 2) = true := by
  rw [← CancellationToken.exists_lt_isCancelledAt]
  simp only [checks, List.mem_range]

/-- A pass gives what an undisturbed pass gives, unless it is cancelled. -/
theorem generate_of_checks (h : ∀ check ∈ program.checks, token.isCancelledAt check = false) :
    program.generate settings token = program.generate settings .never := by
  cases hentry : program.entryPoint with
  | none => rw [generate_of_no_entryPoint hentry, generate_of_no_entryPoint hentry]
  | some entryPoint =>
    -- The last two checks are what is left of a pass that is not cancelled earlier.
    have hbehind := h (program.types.length + 1) (List.mem_range.mpr (by omega))
    have hlast := h (program.types.length + 2) (List.mem_range.mpr (by omega))
    rw [generate_of_not_cancelled hentry hbehind, CancellationToken.guardAt_of_not_cancelled hlast,
      generate_of_not_cancelled hentry (CancellationToken.isCancelledAt_never _)]
    rfl

/-- A pass whose plan is writable ends as cancelled exactly if one of its checks sees the token
cancelled. -/
theorem generate_eq_cancelled_iff (hentry : program.entryPoint = some entryPoint)
    (hwritable : program.fullPlan.IsWritable settings.registrationFunction) :
    program.generate settings token = .error .cancelled ↔
      ∃ check ∈ program.checks, token.isCancelledAt check = true := by
  constructor
  · intro h
    apply Classical.byContradiction
    intro hnone
    -- Undisturbed, the pass would have succeeded.
    have hnever : ∀ check ∈ program.checks, token.isCancelledAt check = false := by
      intro check hmem
      rw [← Bool.not_eq_true]
      exact fun hcheck => hnone ⟨check, hmem, hcheck⟩
    obtain ⟨artifacts, hartifacts⟩ :=
      exists_generate_never_iff.mpr ⟨hentry ▸ nofun, hwritable⟩
    rw [generate_of_checks hnever, hartifacts] at h
    cases h
  · intro h
    have hlast := exists_mem_checks_iff.mp h
    cases hbehind : token.isCancelledAt (program.types.length + 1) with
    | true => exact generate_of_cancelled hentry hbehind
    | false =>
      -- Only the last check is left, and it comes behind everything that could fail.
      obtain ⟨definitions, hdefinitions⟩ :=
        exists_definitionsArtifact settings entryPoint.modulePath
      obtain ⟨registrations, hregistrations⟩ :=
        (exists_registrationsArtifact_iff entryPoint.modulePath).mpr hwritable
      have hguard := CancellationToken.guardAt_of_cancelled hlast
      rw [generate_of_not_cancelled hentry hbehind]
      simp only [hdefinitions, hregistrations, hguard, bind, Except.bind]

/-- A pass that succeeds has passed its last check. -/
theorem not_cancelled_of_generate_eq_ok {artifacts : List Artifact}
    (h : program.generate settings token = .ok artifacts) :
    token.isCancelledAt (program.types.length + 2) = false := by
  cases hentry : program.entryPoint with
  | none =>
    rw [generate_of_no_entryPoint hentry] at h
    cases h
  | some entryPoint =>
    cases hbehind : token.isCancelledAt (program.types.length + 1) with
    | true =>
      rw [generate_of_cancelled hentry hbehind] at h
      cases h
    | false =>
      rw [generate_of_not_cancelled hentry hbehind] at h
      obtain ⟨_, -, h⟩ := bind_eq_ok.mp h
      obtain ⟨_, -, h⟩ := bind_eq_ok.mp h
      obtain ⟨_, hguard, -⟩ := bind_eq_ok.mp h
      -- The last check comes before the artifacts are returned.
      cases hlast : token.isCancelledAt (program.types.length + 2) with
      | false => rfl
      | true =>
        rw [CancellationToken.guardAt_of_cancelled hlast] at hguard
        cases hguard

/-- A pass succeeds exactly if no check sees its token cancelled and an undisturbed pass succeeds,
and then both give the same. -/
theorem generate_eq_ok_iff {artifacts : List Artifact} :
    program.generate settings token = .ok artifacts ↔
      (∀ check ∈ program.checks, token.isCancelledAt check = false) ∧
        program.generate settings .never = .ok artifacts := by
  constructor
  · intro h
    have hlast : token.isCancelledAt (program.types.length + 2) = false :=
      not_cancelled_of_generate_eq_ok h
    -- Cancellation is for good, so passing the last check means passing all of them.
    have hnever : ∀ check ∈ program.checks, token.isCancelledAt check = false := by
      intro check hmem
      have hlt := List.mem_range.mp hmem
      exact CancellationToken.not_cancelled_of_le (by omega) hlast
    exact ⟨hnever, generate_of_checks hnever ▸ h⟩
  · rintro ⟨hnever, h⟩
    rwa [generate_of_checks hnever]

end Program

end RouteRegistrar
