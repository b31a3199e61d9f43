import RouteRegistrar.Route.Handle

/-!
# The registration function

A plan is written as one function that takes a router and returns it with all routes added. Each
group builds a router of its own under its handle and is then nested or merged into the main router.

Writing does not look into the fragments that a plan carries. A fragment that cannot be read as
tokens is replaced by a compile error that names it.
-/

namespace RouteRegistrar

open Token Text

namespace Registration

/-- The name of the registration function, unless settings give another. -/
def defaultFunction : String := "set_map"

/-- The tokens of a fragment. -/
def fragment (text : String) : List Token :=
  match tokenize text with
  | some tokens => tokens
  | none =>
    operator "::" ++ [ident "core"] ++ operator "::" ++ [ident "compile_error"] ++ operator "!" ++
      [parens [literal (Quoted.literal ("Cannot tokenize generated fragment: " ++ text))]]

/-- A path from the root of all names. -/
def rootPath (segments : List String) : List Token :=
  segments.flatMap fun segment => operator "::" ++ [ident segment]

/-- Puts commas between lists of tokens. -/
def commaSeparated (items : List (List Token)) : List Token := (operator ",").intercalate items

/-- The call of the method that answers a request. A method with a receiver gets a fresh value. -/
def call (endpoint : Endpoint) : List Token :=
  let handlerType := fragment endpoint.handlerType
  let arguments := parens (commaSeparated (endpoint.parameters.map (fragment ·.name)))
  let method := fragment endpoint.method
  let callee :=
    if endpoint.hasReceiver then
      operator "<" ++ handlerType ++ [ident "as"] ++ rootPath ["core", "default", "Default"] ++
        operator ">" ++ rootPath ["default"] ++ [parens []] ++ operator "." ++ method
    else handlerType ++ operator "::" ++ method
  callee ++ [arguments] ++ if endpoint.isAsync then operator "." ++ [ident "await"] else []

/-- The closure that answers a request. -/
def handler (endpoint : Endpoint) : List Token :=
  let inputs := endpoint.parameters.map fun parameter =>
    fragment parameter.name ++ operator ":" ++ fragment parameter.type
  operator "|" ++ commaSeparated inputs ++ operator "|" ++
    [ident "async", ident "move", braces (call endpoint)]

/-- Binds a variable to an expression. -/
def letStatement (name : String) (value : List Token) : List Token :=
  [ident "let", ident name] ++ operator "=" ++ value ++ operator ";"

/-- Calls a method of a variable. -/
def methodCall (receiver method : String) (arguments : List (List Token)) : List Token :=
  [ident receiver] ++ operator "." ++ [ident method, parens (commaSeparated arguments)]

/-- The statement that adds an endpoint to its group. -/
def endpointStatement (handle : String) (endpoint : Endpoint) : List Token :=
  letStatement handle (methodCall handle "route"
    [fragment endpoint.pattern,
      rootPath ["axum", "routing", endpoint.verb.routingFunction] ++ [parens (handler endpoint)]])

/-- The tokens of a mount path, or nothing if it is empty. -/
def mountTokens? : MountPath → Option (List Token)
  | .literal value => if value.isEmpty then none else some [literal (Quoted.literal ("/" ++ value))]
  | .verbatim text => if text.isEmpty then none else some (fragment text)

/-- The statement that mounts a group: nested at its path, or merged if the path is empty. -/
def mountStatement (handle : String) (path : MountPath) : List Token :=
  letStatement "app" (match mountTokens? path with
    | some tokens => methodCall "app" "nest" [tokens, [ident handle]]
    | none => methodCall "app" "merge" [[ident handle]])

/-- The statements of a group. -/
def groupStatements (handle : String) (group : Group) : List Token :=
  letStatement handle (rootPath ["axum", "Router", "new"] ++ [parens []]) ++
    group.endpoints.flatMap (endpointStatement handle) ++
    mountStatement handle group.mountPath

/-- The documentation of the registration function. -/
def documentation (provenance : String) : String :=
  " Registers all annotated route handlers. Generated by " ++ provenance ++ "."

/-- An outer attribute. -/
def outerAttribute (content : List Token) : List Token := operator "#" ++ [brackets content]

/-- A documentation attribute. -/
def docAttribute (text : String) : List Token :=
  outerAttribute ([ident "doc"] ++ operator "=" ++ [literal (Quoted.literal text)])

end Registration

open Registration in
/-- The registration function of a plan. -/
def Plan.registrations (plan : Plan) (function provenance : String) :
    Except Failure (List Token) := do
  let handles ← plan.handles
  let statements := (handles.zip plan.groups).flatMap fun (handle, routes) =>
    groupStatements handle routes
  return docAttribute (documentation provenance) ++ [ident "pub", ident "fn"] ++
    fragment function ++
    [parens ([ident "app"] ++ operator ":" ++ rootPath ["axum", "Router"])] ++
    operator "->" ++ rootPath ["axum", "Router"] ++ [braces (statements ++ [ident "app"])]

end RouteRegistrar
