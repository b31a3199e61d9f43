import Mathlib.Data.List.Forall2
import RouteRegistrar.Route.Plan

/-!
# Registration functions as programs over routers

The registration function is a sequence of `let` statements over router variables. This module gives
it a meaning: an abstract router, which is just the list of what has been added to it, and an
interpreter that reads the statements from tokens and runs them in order.

The interpreter knows nothing about plans. It cuts a function body at its semicolons, reads each
piece as a rebinding of a variable, and fails on a piece of any other form and on a variable that
has no value yet.

What a plan means is said without the code that writes it: a fragment is its tokens or a compile
error, a handler is a closure, a mount path is a literal or a fragment. All tokens are spelled out.
-/

namespace RouteRegistrar

/-! ## Routers -/

/-- One thing that has been added to a router. A route has its verb, the tokens of its pattern and
the tokens of its handler; a router is added at the tokens of a path or merged in. -/
inductive RouterEntry where
  | route (verb : Verb) (pattern handler : List Token)
  | nested (path : List Token) (entries : List RouterEntry)
  | merged (entries : List RouterEntry)

/-- A router: everything that has been added to it, in order. -/
abbrev Router := List RouterEntry

namespace RouterEntry

mutual

/-- Whether two entries are the same. -/
def decEq : (e f : RouterEntry) → Decidable (e = f)
  | route v p h, route w q i => decidable_of_iff (v = w ∧ p = q ∧ h = i) (by rw [route.injEq])
  | nested p es, nested q fs =>
    have := decEqAll es fs
    decidable_of_iff (p = q ∧ es = fs) (by rw [nested.injEq])
  | merged es, merged fs =>
    have := decEqAll es fs
    decidable_of_iff (es = fs) (by rw [merged.injEq])
  | route .., nested .. | route .., merged _ | nested .., route .. => isFalse nofun
  | nested .., merged _ | merged _, route .. | merged _, nested .. => isFalse nofun

/-- Whether two routers are the same. -/
def decEqAll : (es fs : List RouterEntry) → Decidable (es = fs)
  | [], [] => isTrue rfl
  | e :: es, f :: fs =>
    have := decEq e f
    have := decEqAll es fs
    decidable_of_iff (e = f ∧ es = fs) (by rw [List.cons.injEq])
  | [], _ :: _ | _ :: _, [] => isFalse nofun

end

instance : DecidableEq RouterEntry := decEq

end RouterEntry

/-- The verb that a function of the routing module stands for. -/
def Verb.ofRoutingFunction? : String → Option Verb
  | "get" => some get
  | "post" => some post
  | "delete" => some delete
  | "put" => some put
  | _ => none

/-- Each verb has a routing function of its own. -/
@[simp]
theorem Verb.ofRoutingFunction?_routingFunction (verb : Verb) :
    ofRoutingFunction? verb.routingFunction = some verb := by
  cases verb <;> rfl

namespace Registration

/-! ## Expressions -/

/-- The value of a `let` statement. -/
inductive RouterExpr where
  | new
  | route (receiver : String) (verb : Verb) (pattern handler : List Token)
  | nest (receiver : String) (path : List Token) (router : String)
  | merge (receiver router : String)

/-- Why a body has no value. -/
inductive Fault where
  | malformed
  | unbound (name : String)
  deriving DecidableEq

/-- The values of the variables, the newest first. A later binding hides an earlier one. -/
abbrev Bindings := List (String × Router)

/-- The value of a variable. -/
def Bindings.value (bindings : Bindings) (name : String) : Except Fault Router :=
  match bindings.find? (·.1 = name) with
  | some (_, router) => .ok router
  | none => .error (.unbound name)

/-- The value of an expression. -/
def RouterExpr.eval (bindings : Bindings) : RouterExpr → Except Fault Router
  | new => .ok []
  | route receiver verb pattern handler => do
    return (← bindings.value receiver) ++ [.route verb pattern handler]
  | nest receiver path router => do
    return (← bindings.value receiver) ++ [.nested path (← bindings.value router)]
  | merge receiver router => do
    return (← bindings.value receiver) ++ [.merged (← bindings.value router)]

/-! ## Reading expressions -/

/-- Whether a token separates statements. -/
def isSemicolon : Token → Bool
  | .punct ';' _ => true
  | _ => false

/-- Whether a token separates arguments. -/
def isComma : Token → Bool
  | .punct ',' _ => true
  | _ => false

/-- What stands in front of the last comma and what stands behind it. -/
def cutLastComma? : List Token → Option (List Token × List Token)
  | [] => none
  | t :: rest =>
    match cutLastComma? rest with
    | some (front, last) => some (t :: front, last)
    | none => if isComma t then some ([], rest) else none

/-- The names of a path from the root of all names, and what follows it. -/
def readRootPath : List Token → List String × List Token
  | .punct ':' .joint :: .punct ':' .alone :: .ident name :: rest =>
    let (names, more) := readRootPath rest
    (name :: names, more)
  | rest => ([], rest)

/-- The call of a router's method. The first argument of `route` and `nest` may be any tokens, with
commas among them; the second one stands behind the last comma. -/
def readCall? (receiver method : String) (arguments : List Token) : Option RouterExpr :=
  if method = "route" then
    (cutLastComma? arguments).bind fun (pattern, registration) =>
      match readRootPath registration with
      | (["axum", "routing", name], [.group .parenthesis handler]) =>
        (Verb.ofRoutingFunction? name).map (.route receiver · pattern handler)
      | _ => none
  else if method = "nest" then
    match cutLastComma? arguments with
    | some (path, [.ident router]) => some (.nest receiver path router)
    | _ => none
  else if method = "merge" then
    match arguments with
    | [.ident router] => some (.merge receiver router)
    | _ => none
  else none

/-- An expression that makes a router or calls a method of one. -/
def readExpr? (tokens : List Token) : Option RouterExpr :=
  match readRootPath tokens with
  | (["axum", "Router", "new"], [.group .parenthesis []]) => some .new
  | ([], [.ident receiver, .punct '.' .alone, .ident method, .group .parenthesis arguments]) =>
    readCall? receiver method arguments
  | _ => none

/-- A statement: the variable that it binds, and the expression. -/
def readStatement? : List Token → Option (String × RouterExpr)
  | .ident "let" :: .ident name :: .punct '=' .alone :: value => (readExpr? value).map (name, ·)
  | _ => none

/-! ## Running bodies -/

/-- Runs the statements of a body in order. The last piece has to be the variable `app`; its value
is the value of the body. -/
def runPieces (bindings : Bindings) : List (List Token) → Except Fault Router
  | [] => .error .malformed
  | [last] =>
    match last with
    | [.ident "app"] => bindings.value "app"
    | _ => .error .malformed
  | statement :: next :: rest =>
    match readStatement? statement with
    | none => .error .malformed
    | some (name, value) => do
      let router ← value.eval bindings
      runPieces ((name, router) :: bindings) (next :: rest)

/-- Runs a body with some variables bound. -/
def runBody (bindings : Bindings) (body : List Token) : Except Fault Router :=
  runPieces bindings (body.splitOnP isSemicolon)

/-- The content of the last braces of a sequence of tokens. -/
def lastBraces? (tokens : List Token) : Option (List Token) :=
  tokens.reverse.findSome? fun
    | .group .brace content => some content
    | _ => none

/-- The router that a registration function makes of a router: its body is what stands between its
last braces, and it starts with the given router as `app`. -/
def interpret (function : List Token) (router : Router) : Except Fault Router :=
  match lastBraces? function with
  | some body => runBody [("app", router)] body
  | none => .error .malformed

end Registration

/-! ## The meaning of a plan -/

namespace Registration

open Token Text

/-- The two colons between the names of a path. -/
def colons : List Token := [.punct ':' .joint, .punct ':' .alone]

/-- A literal that stands for a text. It is one token, and it is read as the text. -/
structure IsLiteralOf (text literal : String) : Prop where
  tokenize_eq : tokenize literal = some [.literal literal]
  value?_eq : Quoted.value? literal = some text

/-- The tokens that stand for a fragment. -/
inductive StandsFor (text : String) : List Token → Prop where
  /-- The tokens that its text is read as. -/
  | tokens {ts : List Token} : tokenize text = some ts → StandsFor text ts
  /-- A compile error that names it, if its text cannot be read as tokens. -/
  | failure {message : String} : tokenize text = none →
      IsLiteralOf ("Cannot tokenize generated fragment: " ++ text) message →
      StandsFor text (colons ++ [.ident "core"] ++ colons ++
        [.ident "compile_error", .punct '!' .alone, .group .parenthesis [.literal message]])

/-- What a handler calls: a method of a fresh value of the handler type, or a function of this
type. -/
inductive Callee where
  | onDefault (handlerType method : List Token)
  | associated (handlerType method : List Token)

/-- A closure that calls something: its inputs with their types, the callee with its arguments, and
whether the answer is waited for. -/
structure Closure where
  inputs : List (List Token × List Token)
  callee : Callee
  arguments : List (List Token)
  isAwaited : Bool

/-- The callee in source: `<T as ::core::default::Default>::default().method`, or `T::method`. -/
def Callee.toTokens : Callee → List Token
  | onDefault handlerType method =>
    .punct '<' .alone :: handlerType ++ [.ident "as"] ++ colons ++ [.ident "core"] ++ colons ++
      [.ident "default"] ++ colons ++ [.ident "Default", .punct '>' .alone] ++ colons ++
      [.ident "default", .group .parenthesis [], .punct '.' .alone] ++ method
  | associated handlerType method => handlerType ++ colons ++ method

/-- The closure in source: `|name: T, …| async move { callee(argument, …).await }`. -/
def Closure.toTokens (closure : Closure) : List Token :=
  let inputs := closure.inputs.map fun (name, type) => name ++ .punct ':' .alone :: type
  let call := closure.callee.toTokens ++
    [.group .parenthesis ([.punct ',' .alone].intercalate closure.arguments)]
  let answer := if closure.isAwaited then call ++ [.punct '.' .alone, .ident "await"] else call
  .punct '|' .alone :: [.punct ',' .alone].intercalate inputs ++
    [.punct '|' .alone, .ident "async", .ident "move", .group .brace answer]

end Registration

open Registration

/-- A closure that answers the requests to an endpoint: it takes what the method takes, in order,
and hands it on to the method by name, in the same order. -/
structure Endpoint.IsAnsweredBy (endpoint : Endpoint) (closure : Closure) : Prop where
  inputs : List.Forall₂ (fun parameter input =>
    StandsFor parameter.name input.1 ∧ StandsFor parameter.type input.2)
    endpoint.parameters closure.inputs
  callee : ∃ handlerType method, StandsFor endpoint.handlerType handlerType ∧
    StandsFor endpoint.method method ∧ closure.callee =
      if endpoint.hasReceiver then .onDefault handlerType method
      else .associated handlerType method
  arguments : closure.arguments = closure.inputs.map (·.1)
  isAwaited : closure.isAwaited = endpoint.isAsync

/-- The route of an endpoint. -/
inductive Endpoint.IsRoute (endpoint : Endpoint) : RouterEntry → Prop where
  | intro {pattern : List Token} {closure : Closure} : StandsFor endpoint.pattern pattern →
      endpoint.IsAnsweredBy closure →
      IsRoute endpoint (.route endpoint.verb pattern closure.toTokens)

/-- Where a group with a mount path is nested: nowhere if the path is empty, and else at the tokens
of its fragment. A literal path is a literal again, with a slash in front of its text. -/
inductive MountPath.NestsAt (mountPath : MountPath) : Option (List Token) → Prop where
  | nowhere : mountPath = .literal "" ∨ mountPath = .verbatim "" → NestsAt mountPath none
  | literal {value literal : String} : mountPath = .literal value → value ≠ "" →
      IsLiteralOf ("/" ++ value) literal → NestsAt mountPath (some [.literal literal])
  | verbatim {text : String} {path : List Token} : mountPath = .verbatim text → text ≠ "" →
      StandsFor text path → NestsAt mountPath (some path)

/-- The mount of a group: a router with its routes in order, nested or merged. -/
inductive Group.IsMount (group : Group) : RouterEntry → Prop where
  | nested {path : List Token} {routes : Router} : group.mountPath.NestsAt (some path) →
      List.Forall₂ Endpoint.IsRoute group.endpoints routes → IsMount group (.nested path routes)
  | merged {routes : Router} : group.mountPath.NestsAt none →
      List.Forall₂ Endpoint.IsRoute group.endpoints routes → IsMount group (.merged routes)

end RouteRegistrar
