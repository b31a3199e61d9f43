import RouteRegistrar.Proofs.Registration.Pass
import RouteRegistrar.Route.Session

/-!
# Histories of sessions

What a session has emitted is the history of its successful passes: their artifacts, pass by pass,
the marker types first. A pass that fails or is cancelled adds nothing, and no other step does, so
nothing is left of a pass that has been given up half way.

How a pass ends depends on the program, the settings and the token in front of it only. Without an
entry point it fails, also if it is cancelled. Otherwise it is cancelled if one of its checks sees
the token cancelled, whenever that happens, and succeeds if none does. This needs a plan that can be
written: a handle that is no identifier aborts the pass, and so does a fragment that is accepted as
source but has no printed form.
-/

namespace RouteRegistrar

namespace Session

/-- The session behind some steps. -/
def after (session : Session) (steps : List Step) : Session :=
  steps.foldl (fun found step => (found.step step).1) session

/-- A pass of a session: the session in front of it, and the token that the pass asks. -/
structure Pass where
  session : Session
  token : CancellationToken

/-- The passes that a session makes in some steps, in order. -/
def passes (session : Session) : List Step → List Pass
  | [] => []
  | .run moment :: rest =>
    ⟨session, session.token.during moment⟩ :: passes (session.step (.run moment)).1 rest
  | step :: rest => passes (session.step step).1 rest

namespace Pass

/-- How a pass ends. -/
def result (pass : Pass) : Except Failure Unit := (pass.session.pass pass.token).2

/-- Whether a pass succeeds. -/
def succeeds (pass : Pass) : Bool := pass.result.toOption.isSome

/-- What its program and settings give if nothing is cancelled. -/
def artifacts (pass : Pass) : List Artifact :=
  (pass.session.program.generate pass.session.settings .never).toOption.getD []

/-- The checks of a pass, by their numbers. -/
def checks (pass : Pass) : List Nat := pass.session.program.checks

/-- Whether the plan of the program can be written under the settings. -/
def IsWritable (pass : Pass) : Prop :=
  pass.session.program.fullPlan.IsWritable pass.session.settings.registrationFunction

variable {pass : Pass}

/-- A pass ends as the generation of its artifacts does. -/
theorem result_eq (pass : Pass) :
    pass.result =
      (pass.session.program.generate pass.session.settings pass.token).map fun _ => () := by
  rw [result, Session.pass]
  cases pass.session.program.generate pass.session.settings pass.token with
  | error failure => rfl
  | ok artifacts => rfl

/-- The artifacts of a successful pass are those of an undisturbed one. -/
theorem generate_of_succeeds (h : pass.succeeds = true) :
    pass.session.program.generate pass.session.settings pass.token = .ok pass.artifacts ∧
      pass.session.program.generate pass.session.settings .never = .ok pass.artifacts := by
  rw [succeeds, result_eq] at h
  cases hgenerate : pass.session.program.generate pass.session.settings pass.token with
  | error failure =>
    rw [hgenerate] at h
    cases h
  | ok found =>
    -- A check that is passed changes nothing, so the artifacts are those without cancellation.
    have hnever := (Program.generate_eq_ok_iff.mp hgenerate).2
    have hartifacts : pass.artifacts = found := by rw [artifacts, hnever]; rfl
    rw [hartifacts]
    exact ⟨rfl, hnever⟩

theorem result_eq_error_iff {failure : Failure} :
    pass.result = .error failure ↔
      pass.session.program.generate pass.session.settings pass.token = .error failure := by
  rw [result_eq]
  cases pass.session.program.generate pass.session.settings pass.token with
  | error found => simp [Except.map]
  | ok artifacts => exact ⟨nofun, nofun⟩

/-- A pass fails for a missing entry point exactly if there is none, whatever the token says. -/
theorem result_eq_missingEntryPoint_iff :
    pass.result = .error .missingEntryPoint ↔ pass.session.program.entryPoint = none := by
  rw [result_eq_error_iff]
  constructor
  · intro h
    -- The other two ways to fail give other failures.
    rcases Program.generate_eq_error h with ⟨-, hentry⟩ | ⟨hfailure, -⟩ | habort
    · exact hentry
    · cases hfailure
    · cases habort
  · exact Program.generate_of_no_entryPoint

/-- A pass succeeds exactly if there is an entry point, the plan is writable, and no check sees the
token cancelled. -/
theorem succeeds_iff :
    pass.succeeds = true ↔ pass.session.program.entryPoint ≠ none ∧ pass.IsWritable ∧
      ∀ check ∈ pass.checks, pass.token.isCancelledAt check = false := by
  -- A pass without cancellation needs an entry point and a writable plan; the checks come on top.
  constructor
  · intro h
    obtain ⟨hgenerate, hnever⟩ := generate_of_succeeds h
    obtain ⟨hentry, hwritable⟩ := Program.exists_generate_never_iff.mp ⟨_, hnever⟩
    exact ⟨hentry, hwritable, (Program.generate_eq_ok_iff.mp hgenerate).1⟩
  · rintro ⟨hentry, hwritable, hchecks⟩
    obtain ⟨found, hnever⟩ := Program.exists_generate_never_iff.mpr ⟨hentry, hwritable⟩
    have hgenerate := Program.generate_eq_ok_iff.mpr ⟨hchecks, hnever⟩
    rw [succeeds, result_eq, hgenerate]
    rfl

/-- A pass whose plan is writable is cancelled exactly if one of its checks sees the token
cancelled. -/
theorem result_eq_cancelled_iff (hentry : pass.session.program.entryPoint ≠ none)
    (hwritable : pass.IsWritable) :
    pass.result = .error .cancelled ↔
      ∃ check ∈ pass.checks, pass.token.isCancelledAt check = true := by
  obtain ⟨entryPoint, hsome⟩ := Option.ne_none_iff_exists'.mp hentry
  rw [result_eq_error_iff]
  exact Program.generate_eq_cancelled_iff hsome hwritable

theorem succeeds_iff_result : pass.succeeds = true ↔ pass.result = .ok () := by
  rw [succeeds]
  cases pass.result with
  | error failure => exact ⟨nofun, nofun⟩
  | ok done => exact iff_of_true rfl rfl

/-- A pass that is not cancelled aborts if its plan is not writable. -/
theorem exists_abort (hentry : pass.session.program.entryPoint ≠ none)
    (hwritable : ¬pass.IsWritable)
    (hchecks : ∀ check ∈ pass.checks, pass.token.isCancelledAt check = false) :
    ∃ failure, failure.isAbort = true ∧ pass.result = .error failure := by
  cases hnever : pass.session.program.generate pass.session.settings .never with
  | ok found => exact absurd (Program.exists_generate_never_iff.mp ⟨found, hnever⟩).2 hwritable
  | error failure =>
    refine ⟨failure, ?_, ?_⟩
    · -- There is an entry point and nothing cancels, so this leaves a failure of writing.
      rcases Program.generate_eq_error hnever with ⟨-, hnone⟩ | ⟨-, check, -, hcheck⟩ | habort
      · exact absurd hnone hentry
      · cases hcheck
      · exact habort
    · rw [result_eq_error_iff, Program.generate_of_checks hchecks, hnever]

/-- A successful pass gives the marker types first and then the registrations, under their names. -/
theorem artifacts_of_succeeds (h : pass.succeeds = true) :
    ∃ definitions registrations,
      pass.session.program.generate pass.session.settings pass.token =
        .ok [definitions, registrations] ∧
      pass.artifacts = [definitions, registrations] ∧
      definitions.name = pass.session.settings.attributesArtifact ∧
      registrations.name = pass.session.settings.registrationsArtifact := by
  obtain ⟨hgenerate, hnever⟩ := generate_of_succeeds h
  obtain ⟨entryPoint, definitions, registrations, -, hdefinitions, hregistrations, hartifacts⟩ :=
    Program.generate_never_eq_ok_iff.mp hnever
  rw [hartifacts] at hgenerate ⊢
  exact ⟨definitions, registrations, hgenerate, rfl,
    Program.name_of_definitionsArtifact hdefinitions,
    Program.name_of_registrationsArtifact hregistrations⟩

end Pass

/-! ## Histories -/

/-- Only a pass that succeeds emits something. -/
theorem emitted_pass (session : Session) (token : CancellationToken) :
    (session.pass token).1.emitted =
      session.emitted ++ if (Pass.mk session token).succeeds then (Pass.mk session token).artifacts
        else [] := by
  -- A pass emits its artifacts as its last step, after everything that can fail.
  cases hsucceeds : (Pass.mk session token).succeeds with
  | true =>
    have hgenerate := (Pass.generate_of_succeeds hsucceeds).1
    rw [if_pos rfl, pass]
    simp only [hgenerate]
  | false =>
    rw [if_neg nofun, List.append_nil, pass]
    rw [Pass.succeeds, Pass.result_eq] at hsucceeds
    cases hgenerate : session.program.generate session.settings token with
    | error failure => rfl
    | ok artifacts =>
      rw [hgenerate] at hsucceeds
      cases hsucceeds

/-- Cancelling the token emits nothing. -/
@[simp] theorem emitted_interrupted (session : Session) (moment : Option Nat) :
    (session.interrupted moment).emitted = session.emitted := by
  unfold interrupted
  split <;> rfl

/-- What a session has emitted behind some steps is what it had emitted before, and then the
artifacts of its successful passes in order. -/
theorem emitted_after (steps : List Step) :
    ∀ session : Session, (session.after steps).emitted =
      session.emitted ++ ((session.passes steps).filter (·.succeeds)).flatMap (·.artifacts) := by
  induction steps with
  | nil =>
    intro session
    exact (List.append_nil _).symm
  | cons step rest ih =>
    intro session
    show ((session.step step).1.after rest).emitted = _
    rw [ih]
    cases step with
    | run moment =>
      have hstep : (session.step (.run moment)).1.emitted =
          (session.pass (session.token.during moment)).1.emitted := emitted_interrupted _ moment
      rw [hstep, emitted_pass, passes, List.filter_cons]
      -- The pass comes first, and it counts only if it succeeds.
      cases (Pass.mk session (session.token.during moment)).succeeds with
      | true => simp
      | false => simp
    | plan moment | generate moment =>
      have hstep := emitted_interrupted session moment
      simp only [step, hstep, passes]
    | replace | declare | configure | cancel | reset => rfl

/-- **A session emits exactly its successful passes**, whatever its steps are and whenever its token
is cancelled. A pass fails without an entry point, is cancelled if a check sees its token cancelled,
and otherwise succeeds with the two artifacts that its program and settings give, under the names
that the settings ask for. The one exception is a plan that is not writable: there a pass that is
not cancelled aborts. -/
theorem emitted_after_eq_successful (session : Session) (steps : List Step) :
    (session.after steps).emitted =
        session.emitted ++ ((session.passes steps).filter (·.succeeds)).flatMap (·.artifacts) ∧
      ∀ pass ∈ session.passes steps,
        (pass.result = .error .missingEntryPoint ↔ pass.session.program.entryPoint = none) ∧
        (pass.session.program.entryPoint ≠ none → pass.IsWritable →
          (pass.result = .error .cancelled ↔
            ∃ check ∈ pass.checks, pass.token.isCancelledAt check = true)) ∧
        (pass.result = .ok () ↔ pass.session.program.entryPoint ≠ none ∧ pass.IsWritable ∧
          ∀ check ∈ pass.checks, pass.token.isCancelledAt check = false) ∧
        (pass.session.program.entryPoint ≠ none → ¬pass.IsWritable →
          (∀ check ∈ pass.checks, pass.token.isCancelledAt check = false) →
          ∃ failure, failure.isAbort = true ∧ pass.result = .error failure) ∧
        (pass.result = .ok () → ∃ definitions registrations,
          pass.session.program.generate pass.session.settings pass.token =
            .ok [definitions, registrations] ∧
          pass.artifacts = [definitions, registrations] ∧
          definitions.name = pass.session.settings.attributesArtifact ∧
          registrations.name = pass.session.settings.registrationsArtifact) := by
  -- What is emitted follows by induction over the steps; the rest is about a single pass.
  refine ⟨emitted_after steps session, fun pass _ => ⟨Pass.result_eq_missingEntryPoint_iff,
    Pass.result_eq_cancelled_iff, ?_, Pass.exists_abort, ?_⟩⟩
  · rw [← Pass.succeeds_iff_result]
    exact Pass.succeeds_iff
  · rw [← Pass.succeeds_iff_result]
    exact Pass.artifacts_of_succeeds

/-- A route pattern that is accepted as source but has no printed form aborts a pass, although its
handles are identifiers and nothing is cancelled. -/
theorem emitted_after_unprintable_pattern :
    let routes : List Method := [⟨"list", [⟨"get", "become f()"⟩], [], false, false⟩]
    let program := (Program.empty (some ⟨"main", "crate"⟩)).declare (some "crate") "Api"
      [⟨"group", "\"api\""⟩] routes
    let pass : Pass := ⟨{ start with program }, .never⟩
    pass ∈ start.passes [.replace program, .run] ∧
      (∀ handle ∈ program.fullPlan.handleTexts, Text.isIdentifier handle.toList = true) ∧
      (∀ check ∈ pass.checks, pass.token.isCancelledAt check = false) ∧
      pass.result = .error .unprintable ∧ ¬pass.IsWritable ∧
      (start.after [.replace program, .run]).emitted = [] := by
  intro routes program pass
  have hmem : pass ∈ start.passes [.replace program, .run] := List.mem_singleton.mpr rfl
  have hresult : pass.result = .error .unprintable := eq_error_of_failure? (by decide +kernel)
  have hchecks : ∀ check ∈ pass.checks, pass.token.isCancelledAt check = false := fun _ _ => rfl
  obtain ⟨hemitted, hpasses⟩ := emitted_after_eq_successful start [.replace program, .run]
  obtain ⟨-, -, hok, -, -⟩ := hpasses pass hmem
  have hnot : ¬pass.IsWritable := by
    intro hwritable
    have hsuccess := hok.mpr ⟨nofun, hwritable, hchecks⟩
    rw [hresult] at hsuccess
    cases hsuccess
  refine ⟨hmem, by decide +kernel, hchecks, hresult, hnot, ?_⟩
  -- The pass is the only one, and it has failed.
  have hfails : pass.succeeds = false := by rw [Pass.succeeds, hresult]; rfl
  have hpassed : start.passes [.replace program, .run] = [pass] := rfl
  rw [hemitted, hpassed, List.filter_singleton, hfails]
  rfl

end Session

end RouteRegistrar
