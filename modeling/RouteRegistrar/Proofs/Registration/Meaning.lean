import RouteRegistrar.Proofs.Registration.Handles
import RouteRegistrar.Proofs.Registration.Interpreter
import RouteRegistrar.Proofs.Token.Literals
import RouteRegistrar.Route.Registration

/-!
# Registration functions mean their plans

The registration function of a plan, run over an abstract router, adds exactly the groups of the
plan in order. Fragments are arbitrary texts: whatever a fragment holds stays between the brackets
it is written into, so it can be no statement and end none.

What is written for a fragment, for a handler and for a mount path is what these stand for. From
there the proof follows the code from left to right. Running a body whose first statement binds a
variable is running the rest with that variable bound, so each statement, each group and each list
of groups gets a lemma about any code behind it.
-/

namespace RouteRegistrar

open Token Registration

namespace Registration

/-! ## Bindings -/

theorem value_cons_self (bindings : Bindings) (name : String) (router : Router) :
    Bindings.value ((name, router) :: bindings) name = .ok router := by
  simp [Bindings.value]

theorem value_cons_of_ne {name other : String} (h : name ≠ other) (bindings : Bindings)
    (router : Router) :
    Bindings.value ((name, router) :: bindings) other = bindings.value other := by
  simp [Bindings.value, h]

/-! ## What is written -/

theorem isLiteralOf_literal (text : String) : IsLiteralOf text (Text.Quoted.literal text) :=
  ⟨tokenize_literal text, Text.Quoted.value?_literal text⟩

theorem standsFor_fragment (text : String) : StandsFor text (fragment text) := by
  unfold fragment
  split
  case h_1 ts htokens => exact .tokens htokens
  case h_2 hnone => exact .failure hnone (isLiteralOf_literal _)

/-- The closure that answers the requests to an endpoint, with the tokens of its fragments. -/
def closureOf (endpoint : Endpoint) : Closure :=
  let handlerType := fragment endpoint.handlerType
  let method := fragment endpoint.method
  { inputs := endpoint.parameters.map fun parameter =>
      (fragment parameter.name, fragment parameter.type)
    callee := if endpoint.hasReceiver then .onDefault handlerType method
      else .associated handlerType method
    arguments := endpoint.parameters.map (fragment ·.name)
    isAwaited := endpoint.isAsync }

theorem isAnsweredBy_closureOf (endpoint : Endpoint) :
    endpoint.IsAnsweredBy (closureOf endpoint) := by
  refine ⟨?_, ⟨_, _, standsFor_fragment _, standsFor_fragment _, rfl⟩, ?_, rfl⟩
  · rw [closureOf, List.forall₂_map_right_iff, List.forall₂_same]
    exact fun parameter _ => ⟨standsFor_fragment _, standsFor_fragment _⟩
  · simp [closureOf]

/-- The handler of an endpoint is this closure. -/
theorem handler_eq (endpoint : Endpoint) : handler endpoint = (closureOf endpoint).toTokens := by
  -- With a receiver the callee is called on a default value, else it is called by its path.
  have hcallee : (if endpoint.hasReceiver then
        operator "<" ++ fragment endpoint.handlerType ++ [ident "as"] ++
          rootPath ["core", "default", "Default"] ++ operator ">" ++ rootPath ["default"] ++
          [parens []] ++ operator "." ++ fragment endpoint.method
      else fragment endpoint.handlerType ++ operator "::" ++ fragment endpoint.method) =
      (closureOf endpoint).callee.toTokens := by
    unfold closureOf
    split <;> simp [Callee.toTokens, colons, operator, puncts, rootPath, parens]
  have hcall : call endpoint = (closureOf endpoint).callee.toTokens ++
      [.group .parenthesis ([punct ',' .alone].intercalate (closureOf endpoint).arguments)] ++
      if endpoint.isAsync then [punct '.' .alone, ident "await"] else [] := by
    rw [← hcallee]
    rfl
  rw [handler, hcall, Closure.toTokens]
  cases hasync : endpoint.isAsync <;>
    simp [closureOf, hasync, operator, puncts, commaSeparated, braces, Function.comp_def]

theorem isRoute_endpoint (endpoint : Endpoint) :
    endpoint.IsRoute (.route endpoint.verb (fragment endpoint.pattern) (handler endpoint)) := by
  rw [handler_eq]
  exact .intro (standsFor_fragment _) (isAnsweredBy_closureOf endpoint)

theorem nestsAt_mountTokens? (path : MountPath) : path.NestsAt (mountTokens? path) := by
  cases path with
  | literal value =>
    -- Without text there is nowhere to nest at, and the router is merged.
    by_cases hempty : value = ""
    · subst hempty
      exact .nowhere (.inl rfl)
    · rw [mountTokens?, if_neg (by simpa using hempty)]
      exact .literal rfl hempty (isLiteralOf_literal _)
  | verbatim text =>
    by_cases hempty : text = ""
    · subst hempty
      exact .nowhere (.inr rfl)
    · rw [mountTokens?, if_neg (by simpa using hempty)]
      exact .verbatim rfl hempty (standsFor_fragment _)

/-! ## Reading what has been written -/

theorem rootPath_cons (name : String) (names : List String) :
    rootPath (name :: names) =
      punct ':' .joint :: punct ':' .alone :: ident name :: rootPath names := rfl

/-- A written path is read back, whatever brackets follow it. -/
theorem readRootPath_rootPath (names : List String) (delimiter : Delimiter)
    (content : List Token) :
    readRootPath (rootPath names ++ [group delimiter content]) =
      (names, [group delimiter content]) := by
  induction names with
  | nil => simp [rootPath, readRootPath]
  | cons name names ih =>
    rw [rootPath_cons]
    simp [readRootPath, ih]

/-- A path from the root of all names holds neither commas nor semicolons. -/
theorem not_separator_of_mem_rootPath {t : Token} {names : List String}
    (h : t ∈ rootPath names) : isComma t = false ∧ isSemicolon t = false := by
  induction names with
  | nil => simp [rootPath] at h
  | cons name names ih =>
    simp only [rootPath_cons, List.mem_cons] at h
    rcases h with rfl | rfl | rfl | h
    · simp [isComma, isSemicolon]
    · simp [isComma, isSemicolon]
    · simp [isComma, isSemicolon]
    · exact ih h

/-- The last comma is the one in front of tokens without commas. -/
theorem cutLastComma?_append (front : List Token) {last : List Token}
    (h : ∀ t ∈ last, isComma t = false) :
    cutLastComma? (front ++ punct ',' .alone :: last) = some (front, last) := by
  have hlast : cutLastComma? last = none := by
    induction last with
    | nil => rfl
    | cons t rest ih =>
      have hrest := ih fun u hu => h u (List.mem_cons_of_mem _ hu)
      simp [cutLastComma?, hrest, h t List.mem_cons_self]
  -- The cut is at the last comma, so what is in front may contain commas of its own.
  induction front with
  | nil => simp [cutLastComma?, hlast, isComma]
  | cons t rest ih => simp [cutLastComma?, ih]

/-- The value of a `let` statement that makes a router. -/
theorem readExpr?_new : readExpr? (rootPath ["axum", "Router", "new"] ++ [parens []]) =
    some .new := by
  simp [readExpr?, parens, readRootPath_rootPath]

/-- A call of a router's method is read as one, if its arguments are. -/
theorem readExpr?_methodCall (receiver method : String) (arguments : List (List Token)) :
    readExpr? (methodCall receiver method arguments) =
      readCall? receiver method (commaSeparated arguments) := rfl

theorem commaSeparated_pair (first second : List Token) :
    commaSeparated [first, second] = first ++ punct ',' .alone :: second := by
  simp [commaSeparated, List.intercalate, operator, puncts]

/-- The call that adds an endpoint, whatever its pattern holds. -/
theorem readCall?_route (receiver : String) (pattern : List Token) (verb : Verb)
    (handler : List Token) :
    readCall? receiver "route" (commaSeparated [pattern,
        rootPath ["axum", "routing", verb.routingFunction] ++ [parens handler]]) =
      some (.route receiver verb pattern handler) := by
  -- The path of the verb and its parentheses contain no comma at the top.
  have hcomma : ∀ t ∈ rootPath ["axum", "routing", verb.routingFunction] ++ [parens handler],
      isComma t = false := by
    intro t ht
    rcases List.mem_append.mp ht with ht | ht
    · exact (not_separator_of_mem_rootPath ht).1
    · rw [List.mem_singleton.mp ht]
      rfl
  unfold readCall?
  rw [if_pos rfl, commaSeparated_pair, cutLastComma?_append _ hcomma]
  simp [parens, readRootPath_rootPath]

/-- The call that nests a router, whatever its path holds. -/
theorem readCall?_nest (receiver router : String) (path : List Token) :
    readCall? receiver "nest" (commaSeparated [path, [ident router]]) =
      some (.nest receiver path router) := by
  have hcomma : ∀ t ∈ [ident router], isComma t = false := by simp [isComma]
  unfold readCall?
  rw [if_neg (by decide), if_pos rfl, commaSeparated_pair, cutLastComma?_append _ hcomma]

/-- The call that merges a router. -/
theorem readCall?_merge (receiver router : String) :
    readCall? receiver "merge" (commaSeparated [[ident router]]) =
      some (.merge receiver router) := rfl

/-! ## One statement -/

/-- A `let` statement binds its variable for the code behind it, if no semicolon stands open in its
value. -/
theorem runBody_letStatement {bindings : Bindings} {name : String} {value : List Token}
    {expr : RouterExpr} {router : Router} (hread : readExpr? value = some expr)
    (hsemicolon : ∀ t ∈ value, isSemicolon t = false)
    (heval : expr.eval bindings = .ok router) (rest : List Token) :
    runBody bindings (letStatement name value ++ rest) =
      runBody ((name, router) :: bindings) rest := by
  -- The semicolon in the end is the first one, so the statement is the first piece.
  have hpiece : ∀ t ∈ ident "let" :: ident name :: punct '=' .alone :: value,
      isSemicolon t = false := by
    simpa [isSemicolon] using hsemicolon
  have hcut : (letStatement name value ++ rest).splitOnP isSemicolon =
      (ident "let" :: ident name :: punct '=' .alone :: value) :: rest.splitOnP isSemicolon := by
    have htext : letStatement name value ++ rest =
        (ident "let" :: ident name :: punct '=' .alone :: value) ++ punct ';' .alone :: rest := by
      simp [letStatement, operator, puncts]
    rw [htext, List.splitOnP_append_cons_of_forall_mem hpiece _ rfl]
  obtain ⟨next, more, hrest⟩ :=
    List.exists_cons_of_ne_nil (List.splitOnP_ne_nil isSemicolon rest)
  rw [runBody, runBody, hcut, hrest, runPieces]
  simp [readStatement?, hread, heval, bind, Except.bind]

/-- No semicolon stands open in the call of a method. -/
theorem not_semicolon_of_mem_methodCall {t : Token} {receiver method : String}
    {arguments : List (List Token)} (h : t ∈ methodCall receiver method arguments) :
    isSemicolon t = false := by
  have hcall : methodCall receiver method arguments =
      [ident receiver, punct '.' .alone, ident method, parens (commaSeparated arguments)] := rfl
  rw [hcall] at h
  simp only [List.mem_cons, List.not_mem_nil, or_false] at h
  rcases h with rfl | rfl | rfl | rfl <;> rfl

/-- A `let` statement with a call of a method. -/
theorem runBody_let_methodCall {bindings : Bindings} {name receiver method : String}
    {arguments : List (List Token)} {expr : RouterExpr} {router : Router}
    (hread : readCall? receiver method (commaSeparated arguments) = some expr)
    (heval : expr.eval bindings = .ok router) (rest : List Token) :
    runBody bindings (letStatement name (methodCall receiver method arguments) ++ rest) =
      runBody ((name, router) :: bindings) rest := by
  have hexpr := (readExpr?_methodCall receiver method arguments).trans hread
  exact runBody_letStatement hexpr (fun _ ht => not_semicolon_of_mem_methodCall ht) heval rest

/-- The statement that adds an endpoint appends its route to the router of its group. -/
theorem runBody_endpointStatement {bindings : Bindings} {handle : String} {router : Router}
    (hvalue : bindings.value handle = .ok router) (endpoint : Endpoint) :
    ∃ route, endpoint.IsRoute route ∧
      ∀ rest, runBody bindings (endpointStatement handle endpoint ++ rest) =
        runBody ((handle, router ++ [route]) :: bindings) rest := by
  refine ⟨_, isRoute_endpoint endpoint, fun rest => ?_⟩
  apply runBody_let_methodCall (readCall?_route ..)
  simp [RouterExpr.eval, hvalue, bind, Except.bind, pure, Except.pure]

/-- The statement that mounts a group adds its router to the main router. -/
theorem runBody_mountStatement {bindings : Bindings} {handle : String} {app routes : Router}
    {group : Group} (happ : bindings.value "app" = .ok app)
    (hvalue : bindings.value handle = .ok routes)
    (hroutes : List.Forall₂ Endpoint.IsRoute group.endpoints routes) :
    ∃ mount, group.IsMount mount ∧
      ∀ rest, runBody bindings (mountStatement handle group.mountPath ++ rest) =
        runBody (("app", app ++ [mount]) :: bindings) rest := by
  have hpath := nestsAt_mountTokens? group.mountPath
  unfold mountStatement
  -- The statement nests the routes if there is a path to nest at; else it merges them.
  cases htokens : mountTokens? group.mountPath with
  | some path =>
    rw [htokens] at hpath
    refine ⟨_, .nested hpath hroutes, fun rest => ?_⟩
    apply runBody_let_methodCall (readCall?_nest ..)
    simp [RouterExpr.eval, happ, hvalue, bind, Except.bind, pure, Except.pure]
  | none =>
    rw [htokens] at hpath
    refine ⟨_, .merged hpath hroutes, fun rest => ?_⟩
    apply runBody_let_methodCall (readCall?_merge ..)
    simp [RouterExpr.eval, happ, hvalue, bind, Except.bind, pure, Except.pure]

/-! ## Groups -/

/-- The statements of some endpoints append their routes in order, and change no other variable. -/
theorem runBody_endpoints {handle : String} (endpoints : List Endpoint) :
    ∀ {bindings : Bindings} {router : Router}, bindings.value handle = .ok router →
      ∃ (routes : Router) (after : Bindings), List.Forall₂ Endpoint.IsRoute endpoints routes ∧
        after.value handle = .ok (router ++ routes) ∧
        (∀ other, handle ≠ other → after.value other = bindings.value other) ∧
        ∀ rest, runBody bindings (endpoints.flatMap (endpointStatement handle) ++ rest) =
          runBody after rest := by
  -- Each statement adds one route to the router of the handle and leaves the others alone.
  induction endpoints with
  | nil =>
    intro bindings router hvalue
    exact ⟨[], bindings, .nil, by simpa using hvalue, fun _ _ => rfl, fun _ => rfl⟩
  | cons endpoint endpoints ih =>
    intro bindings router hvalue
    obtain ⟨route, hroute, hstep⟩ := runBody_endpointStatement hvalue endpoint
    obtain ⟨routes, after, hroutes, hafter, hother, hrun⟩ :=
      ih (value_cons_self bindings handle (router ++ [route]))
    refine ⟨route :: routes, after, .cons hroute hroutes, ?_, ?_, fun rest => ?_⟩
    · simpa using hafter
    · intro other hne
      rw [hother other hne, value_cons_of_ne hne]
    · rw [List.flatMap_cons, List.append_assoc, hstep, hrun]

/-- The statements of a group mount it once. Its handle must not be the main router. -/
theorem runBody_groupStatements {handle : String} (hhandle : handle ≠ "app") (group : Group)
    {bindings : Bindings} {app : Router} (happ : bindings.value "app" = .ok app) :
    ∃ (mount : RouterEntry) (after : Bindings), group.IsMount mount ∧
      after.value "app" = .ok (app ++ [mount]) ∧
      ∀ rest, runBody bindings (groupStatements handle group ++ rest) = runBody after rest := by
  have hnew : ∀ t ∈ rootPath ["axum", "Router", "new"] ++ [parens []],
      isSemicolon t = false := by
    intro t ht
    rcases List.mem_append.mp ht with ht | ht
    · exact (not_separator_of_mem_rootPath ht).2
    · rw [List.mem_singleton.mp ht]
      rfl
  -- The handle starts as a new router, and hides nothing that is called `app`.
  obtain ⟨routes, inner, hroutes, hvalue, hother, hrun⟩ :=
    runBody_endpoints group.endpoints (value_cons_self bindings handle [])
  have happ' : inner.value "app" = .ok app := by
    rw [hother "app" hhandle, value_cons_of_ne hhandle, happ]
  obtain ⟨mount, hmount, hstep⟩ := runBody_mountStatement happ' hvalue hroutes
  refine ⟨mount, ("app", app ++ [mount]) :: inner, hmount, value_cons_self .., fun rest => ?_⟩
  rw [groupStatements, List.append_assoc, List.append_assoc,
    runBody_letStatement readExpr?_new hnew rfl, hrun, hstep]

/-- The statements of all groups mount each of them once and in order. -/
theorem runBody_groups (written : List (String × Group)) (hhandles : ∀ w ∈ written, w.1 ≠ "app")
    {bindings : Bindings} {app : Router} (happ : bindings.value "app" = .ok app) :
    ∃ mounts, List.Forall₂ Group.IsMount (written.map (·.2)) mounts ∧
      runBody bindings ((written.flatMap fun w => groupStatements w.1 w.2) ++ [ident "app"]) =
        .ok (app ++ mounts) := by
  -- After each group `app` holds one mount more, and the routers of other handles do not matter.
  induction written generalizing bindings app with
  | nil =>
    have hcut : [ident "app"].splitOnP isSemicolon = [[ident "app"]] :=
      List.splitOnP_eq_singleton (by simp [isSemicolon])
    exact ⟨[], .nil, by simp [runBody, hcut, runPieces, happ]⟩
  | cons w written ih =>
    have hrest : ∀ w ∈ written, w.1 ≠ "app" := fun w hw => hhandles w (List.mem_cons_of_mem _ hw)
    obtain ⟨mount, after, hmount, hafter, hstep⟩ :=
      runBody_groupStatements (hhandles w List.mem_cons_self) w.2 happ
    obtain ⟨mounts, hmounts, hrun⟩ := ih hrest hafter
    refine ⟨mount :: mounts, .cons hmount hmounts, ?_⟩
    rw [List.flatMap_cons, List.append_assoc, hstep, hrun, List.append_assoc]
    rfl

end Registration

namespace Plan

/-! ## Handles -/

/-- There is one handle for each group, and none of them is the main router. -/
theorem handles_spec {plan : Plan} {handles : List String} (h : plan.handles = .ok handles) :
    handles.length = plan.groups.length ∧ ∀ handle ∈ handles, handle ≠ "app" := by
  obtain ⟨rfl, -⟩ := mapM_identifier_eq_ok_iff.mp h
  refine ⟨by rw [handleTexts, Handle.length_assign, List.length_map], ?_⟩
  rintro handle hmem rfl
  exact app_not_mem_handleTexts plan hmem

/-! ## The registration function -/

/-- The body of the registration function stands between its last braces. -/
theorem lastBraces?_append_braces (front body : List Token) :
    lastBraces? (front ++ [braces body]) = some body := by
  simp [lastBraces?, braces]

/-- **The registration function means its plan**: whenever the groups of a plan have handles, the
function exists, and it makes of any router that router with one mount for each group, in the order
of the plan. Each mounted router has one route for each endpoint of its group, in their order. -/
theorem interpret_registrations {plan : Plan} {handles : List String}
    (h : plan.handles = .ok handles) (function provenance : String) (router : Router) :
    ∃ tokens, plan.registrations function provenance = .ok tokens ∧
      ∃ mounts, List.Forall₂ Group.IsMount plan.groups mounts ∧
        interpret tokens router = .ok (router ++ mounts) := by
  obtain ⟨hlength, hhandles⟩ := handles_spec h
  -- Handles and groups are paired in order, and there are as many of both.
  have hgroups : (handles.zip plan.groups).map (·.2) = plan.groups :=
    List.map_snd_zip (Nat.le_of_eq hlength.symm)
  have hnames : ∀ w ∈ handles.zip plan.groups, w.1 ≠ "app" := fun w hw =>
    hhandles w.1 (List.of_mem_zip hw).1
  obtain ⟨mounts, hmounts, hrun⟩ := runBody_groups (handles.zip plan.groups) hnames
    (value_cons_self [] "app" router)
  rw [hgroups] at hmounts
  refine ⟨_, by simp only [registrations, h]; rfl, mounts, hmounts, ?_⟩
  rw [interpret, lastBraces?_append_braces]
  exact hrun

/-- Two groups of one type name. The fragments of the first one try to end a statement, to add
arguments to it and to leave their brackets, and one of them cannot be read as tokens. The second
group has neither routes nor a path. -/
def hostilePlan : Plan where
  groups := [
    ⟨"Service", none, .verbatim "at, evil; let app = x", [
      ⟨.get, "\"/a\", x;", [⟨"id", "u8; y"⟩], "A", "list", true, true⟩,
      ⟨.put, "\"/\"); x", [], "A", "put(), evil", false, false⟩]⟩,
    ⟨"Service", none, .literal "", []⟩]

/-- All fragments stay in their places. There is a compile error for the one that cannot be read. -/
theorem interpret_registrations_hostile :
    hostilePlan.handles = .ok ["api_service", "api_service_1"] ∧
      ∃ tokens, hostilePlan.registrations "set_map \x7b \x7d" "; \x7b" = .ok tokens ∧
        ∃ mounts, List.Forall₂ Group.IsMount hostilePlan.groups mounts ∧
          interpret tokens [] = .ok mounts ∧ mounts = [
            .nested [.ident "at", .punct ',' .alone, .ident "evil", .punct ';' .alone, .ident "let",
                .ident "app", .punct '=' .alone, .ident "x"] [
              .route .get [.literal "\"/a\"", .punct ',' .alone, .ident "x", .punct ';' .alone]
                [.punct '|' .alone, .ident "id", .punct ':' .alone, .ident "u8", .punct ';' .alone,
                  .ident "y", .punct '|' .alone, .ident "async", .ident "move",
                  .group .brace [.punct '<' .alone, .ident "A", .ident "as",
                    .punct ':' .joint, .punct ':' .alone, .ident "core",
                    .punct ':' .joint, .punct ':' .alone, .ident "default",
                    .punct ':' .joint, .punct ':' .alone, .ident "Default", .punct '>' .alone,
                    .punct ':' .joint, .punct ':' .alone, .ident "default", .group .parenthesis [],
                    .punct '.' .alone, .ident "list", .group .parenthesis [.ident "id"],
                    .punct '.' .alone, .ident "await"]],
              .route .put
                [.punct ':' .joint, .punct ':' .alone, .ident "core",
                  .punct ':' .joint, .punct ':' .alone, .ident "compile_error", .punct '!' .alone,
                  .group .parenthesis
                    [.literal "\"Cannot tokenize generated fragment: \\\"/\\\"); x\""]]
                [.punct '|' .alone, .punct '|' .alone, .ident "async", .ident "move",
                  .group .brace [.ident "A", .punct ':' .joint, .punct ':' .alone, .ident "put",
                    .group .parenthesis [], .punct ',' .alone, .ident "evil",
                    .group .parenthesis []]]],
            .merged []] := by
  have h : hostilePlan.handles = .ok ["api_service", "api_service_1"] := rfl
  obtain ⟨tokens, htokens, mounts, hmounts, hrun⟩ :=
    interpret_registrations h "set_map \x7b \x7d" "; \x7b" []
  refine ⟨h, tokens, htokens, mounts, hmounts, hrun, ?_⟩
  -- The mounts are those that the interpreter finds, so they can be evaluated.
  have hcomputed : some mounts = (hostilePlan.registrations "set_map \x7b \x7d"
      "; \x7b").toOption.bind fun tokens => (interpret tokens []).toOption := by
    rw [htokens]
    exact (congrArg Except.toOption hrun).symm
  apply Option.some.inj
  rw [hcomputed]
  decide +kernel

end Plan

end RouteRegistrar
