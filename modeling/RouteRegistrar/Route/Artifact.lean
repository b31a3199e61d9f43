import RouteRegistrar.Route.Definition
import RouteRegistrar.Route.Plan
import RouteRegistrar.Settings.Basic
import RouteRegistrar.Style.Source

/-!
# Artifacts

A pass writes two source files: the marker types, and the registration function with the routes of
the program. Both begin with a comment that names the generator and the module they are meant for.

A pass asks its cancellation token at numbered checks: before the first artifact, in front of each
type, before the second artifact and at its end.
-/

namespace RouteRegistrar

/-- A generated source file. -/
structure Artifact where
  name : String
  text : String
  deriving DecidableEq, Repr

namespace Artifact

/-- What names the generator in its output. -/
def provenance : String := "::aot_routes::RouteGenerator 0.1.0"

/-- The comment at the beginning of an artifact. -/
def header (modulePath : String) : String :=
  "// @generated by " ++ provenance ++ ". Do not edit.\n// Include in `" ++ modulePath ++ "`.\n\n"

/-- The artifact that holds some tokens. -/
def ofTokens (name modulePath : String) (tokens : List Token) : Except Failure Artifact := do
  return ⟨name, header modulePath ++ (← Token.sourceText tokens)⟩

end Artifact

namespace Program

/-- The artifact with the marker types. -/
def definitionsArtifact (settings : Settings) (modulePath : String) : Except Failure Artifact :=
  Artifact.ofTokens settings.attributesArtifact modulePath
    (RouteMarker.definitions RouteMarker.all Artifact.provenance)

/-- The artifact with the registration function of a plan. -/
def registrationsArtifact (settings : Settings) (modulePath : String) (plan : Plan) :
    Except Failure Artifact := do
  let tokens ← plan.registrations settings.registrationFunction Artifact.provenance
  Artifact.ofTokens settings.registrationsArtifact modulePath tokens

/-- The artifacts of a program. -/
def generate (program : Program) (settings : Settings) (token : CancellationToken) :
    Except Failure (List Artifact) := do
  let entryPoint ← match program.entryPoint with
    | some found => .ok found
    | none => .error .missingEntryPoint
  token.guardAt 0
  let definitions ← definitionsArtifact settings entryPoint.modulePath
  let plan ← program.plan token 1
  let behindTypes := program.types.length + 1
  token.guardAt behindTypes
  let registrations ← registrationsArtifact settings entryPoint.modulePath plan
  token.guardAt (behindTypes + 1)
  return [definitions, registrations]

end Program

end RouteRegistrar
