import RouteRegistrar.Route.Artifact

/-!
# Sessions

A session keeps a program, its settings, a cancellation token and everything that successful passes
have emitted, in order. Steps change one of them, ask for the plan or the artifacts, or make a pass.
While a step works, its token may be cancelled in front of any check; it then stays cancelled.
-/

namespace RouteRegistrar

/-- A token as a step sees it that may meanwhile be cancelled, in front of a check. -/
def CancellationToken.during (token : CancellationToken) (moment : Option Nat) :
    CancellationToken :=
  ⟨token.firesAt.merge min moment⟩

/-- The state of a session. -/
structure Session where
  program : Program
  settings : Settings
  token : CancellationToken
  /-- The artifacts of all successful passes. -/
  emitted : List Artifact

namespace Session

/-- A session without a program that has an entry point. -/
def start : Session := ⟨.empty none, .default, .never, []⟩

/-- A step of a session. -/
inductive Step where
  /-- Replaces the program. -/
  | replace (program : Program)
  /-- Declares a type. -/
  | declare (modulePath : Option String) (name : String) (markers : List Marker)
      (methods : List Method)
  | configure (settings : Settings)
  /-- Cancels the token. -/
  | cancel
  /-- Replaces the token by a fresh one. -/
  | reset
  /-- Asks for the plan. Here and below, the token is cancelled in front of the check `moment`. -/
  | plan (moment : Option Nat := none)
  /-- Asks for the artifacts, which are not emitted. -/
  | generate (moment : Option Nat := none)
  /-- Makes a pass whose artifacts are emitted. -/
  | run (moment : Option Nat := none)

/-- A pass: its artifacts are emitted if it succeeds. -/
def pass (session : Session) (token : CancellationToken) : Session × Except Failure Unit :=
  match session.program.generate session.settings token with
  | .ok artifacts => ({ session with emitted := session.emitted ++ artifacts }, .ok ())
  | .error failure => (session, .error failure)

/-- A session whose token may have been cancelled. -/
def interrupted (session : Session) (moment : Option Nat) : Session :=
  if moment.isSome then { session with token := .fired } else session

/-- The state behind a step, and how the step ended. -/
def step (session : Session) : Step → Session × Except Failure Unit
  | .replace program => ({ session with program }, .ok ())
  | .declare modulePath name markers methods =>
    ({ session with program := session.program.declare modulePath name markers methods }, .ok ())
  | .configure settings => ({ session with settings }, .ok ())
  | .cancel => ({ session with token := .fired }, .ok ())
  | .reset => ({ session with token := .never }, .ok ())
  | .plan moment =>
    (session.interrupted moment,
      (session.program.plan (session.token.during moment) 0).map fun _ => ())
  | .generate moment =>
    (session.interrupted moment,
      (session.program.generate session.settings (session.token.during moment)).map fun _ => ())
  | .run moment =>
    let (next, result) := session.pass (session.token.during moment)
    (next.interrupted moment, result)

end Session

end RouteRegistrar
