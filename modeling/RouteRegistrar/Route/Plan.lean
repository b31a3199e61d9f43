import RouteRegistrar.Failure
import RouteRegistrar.Route.Program
import RouteRegistrar.Text.Quoted
import RouteRegistrar.Token.Lexer

/-!
# Registration plans

A plan lists every route to register: one group per handler type, in declaration order, and in it
one endpoint per annotated method, in declaration order. Malformed arguments are carried along as
they are.

Extraction can be cancelled. A cancellation token is asked at numbered checks and may fire in front
of any of them.
-/

namespace RouteRegistrar

open Text

/-! ## Cancellation -/

/-- A cancellation token that reads as cancelled from a certain check on, or never. -/
structure CancellationToken where
  firesAt : Option Nat
  deriving DecidableEq, Repr

namespace CancellationToken

/-- A token that never fires. -/
def never : CancellationToken := ⟨none⟩

/-- A token that has already fired. -/
def fired : CancellationToken := ⟨some 0⟩

/-- Whether a check sees the token cancelled. -/
def isCancelledAt (token : CancellationToken) (check : Nat) : Bool :=
  match token.firesAt with
  | none => false
  | some first => first ≤ check

/-- Ends a pass that is cancelled at a check. -/
def guardAt (token : CancellationToken) (check : Nat) : Except Failure Unit :=
  if token.isCancelledAt check then .error .cancelled else .ok ()

end CancellationToken

/-! ## Plans -/

/-- The path under which a group is mounted, without surrounding slashes: the value of a string
literal, or any other argument text. -/
inductive MountPath where
  | literal (value : String)
  | verbatim (text : String)
  deriving DecidableEq, Repr

/-- Removes surrounding slashes. -/
def trimSlashes (text : String) : String := String.ofList (trimBy (· = '/') text.toList)

/-- The mount path that the arguments of a group marker give. -/
def MountPath.ofArguments (arguments : String) : MountPath :=
  let text := trimString arguments
  let value := match Token.tokenize text with
    | some [.literal written] => Quoted.value? written
    | _ => none
  match value with
  | some value => .literal (trimSlashes value)
  | none => .verbatim (trimSlashes text)

/-- A route to register. -/
structure Endpoint where
  verb : Verb
  /-- The argument text of the verb marker. -/
  pattern : String
  parameters : List Parameter
  /-- The full path of the type that has the method. -/
  handlerType : String
  method : String
  isAsync : Bool
  hasReceiver : Bool
  deriving DecidableEq, Repr

/-- The routes of one handler type. -/
structure Group where
  typeName : String
  modulePath : Option String
  mountPath : MountPath
  endpoints : List Endpoint
  deriving DecidableEq, Repr

/-- All routes of a program. -/
structure Plan where
  groups : List Group
  deriving DecidableEq, Repr

namespace Plan

/-- The number of endpoints in all groups. -/
def endpointCount (plan : Plan) : Nat := (plan.groups.flatMap (·.endpoints)).length

/-- Whether there is no group. -/
def isEmpty (plan : Plan) : Bool := plan.groups.isEmpty

end Plan

/-! ## Extraction -/

namespace Method

/-- The endpoint of a method whose first marker by precedence is a verb. -/
def endpoint? (method : Method) (handlerType : String) : Option Endpoint :=
  (Marker.find? method.markers RouteMarker.all).bind fun (name, marker) =>
    name.verb?.map fun verb =>
      { verb
        pattern := marker.arguments
        parameters := method.parameters
        handlerType
        method := method.name
        isAsync := method.isAsync
        hasReceiver := method.hasReceiver }

end Method

namespace Program

/-- The group of a type that carries a group marker; the first such marker counts. -/
def group? (program : Program) (declaration : Declaration) : Option Group :=
  (Marker.find? declaration.markers [.group]).map fun (_, marker) =>
    let path := program.modulePathOf declaration.id
    let handlerType := qualifiedName path declaration.name
    { typeName := declaration.name
      modulePath := path
      mountPath := .ofArguments marker.arguments
      endpoints := declaration.methods.filterMap (·.endpoint? handlerType) }

/-- The groups of a list of types. The token is checked in front of each type, `check` being the
number of the first check. -/
def groupsOf (program : Program) (token : CancellationToken) (check : Nat) :
    List Declaration → Except Failure (List Group)
  | [] => .ok []
  | declaration :: rest => do
    token.guardAt check
    let groups ← groupsOf program token (check + 1) rest
    return (program.group? declaration).toList ++ groups

/-- The plan of a program. -/
def plan (program : Program) (token : CancellationToken) (check : Nat) : Except Failure Plan :=
  (program.groupsOf token check program.types).map Plan.mk

end Program

end RouteRegistrar
