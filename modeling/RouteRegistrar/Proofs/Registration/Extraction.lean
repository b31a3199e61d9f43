import Mathlib.Data.List.Forall2
import Mathlib.Data.List.Induction
import Mathlib.Logic.Relation
import RouteRegistrar.Route.Plan

/-!
# What a plan holds of a program

A program is made by declaring types one after the other. This module says in its own words which
groups and endpoints such declarations give: a group marker makes a group, a method that bears verbs
and no group marker makes an endpoint, and of several verbs the first one by precedence counts, with
the first marker that bears it.

Its main statement is that the plan of the program holds exactly that, so nothing else that is
declared has an effect on the plan.
-/

namespace RouteRegistrar

/-! ## Markers -/

namespace Marker

/-- The marker that the name denotes, if it is recognised. -/
def canonical? (marker : Marker) : Option RouteMarker := RouteMarker.ofName? marker.simpleName

/-- Whether one of some markers has a canonical name. -/
def bears (markers : List Marker) (name : RouteMarker) : Bool :=
  markers.any (·.canonical? = some name)

/-- The first of some markers with a canonical name. -/
def IsFirst (markers : List Marker) (name : RouteMarker) (marker : Marker) : Prop :=
  ∃ front back, markers = front ++ marker :: back ∧ marker.canonical? = some name ∧
    bears front name = false

theorem denotes_eq (marker : Marker) (name : RouteMarker) :
    marker.denotes name = decide (marker.canonical? = some name) := rfl

theorem bears_eq_false_iff {markers : List Marker} {name : RouteMarker} :
    bears markers name = false ↔ ∀ marker ∈ markers, marker.canonical? ≠ some name := by
  simp [bears]

/-- Looking for a canonical name finds the first marker that has it. -/
theorem find?_denotes_eq_some_iff {markers : List Marker} {name : RouteMarker} {marker : Marker} :
    markers.find? (·.denotes name) = some marker ↔ IsFirst markers name marker := by
  rw [List.find?_eq_some_iff_append]
  -- That a marker denotes a name is the test of the search and the wording of `IsFirst`.
  constructor
  · rintro ⟨hname, front, back, hmarkers, hfront⟩
    refine ⟨front, back, hmarkers, by simpa [denotes_eq] using hname, ?_⟩
    rw [bears_eq_false_iff]
    intro other hmem
    simpa [denotes_eq] using hfront other hmem
  · rintro ⟨front, back, hmarkers, hname, hfront⟩
    rw [bears_eq_false_iff] at hfront
    refine ⟨by simpa [denotes_eq] using hname, front, back, hmarkers, ?_⟩
    intro other hmem
    simpa [denotes_eq] using hfront other hmem

theorem find?_denotes_eq_none_iff {markers : List Marker} {name : RouteMarker} :
    markers.find? (·.denotes name) = none ↔ bears markers name = false := by
  simp [bears_eq_false_iff, denotes_eq]

theorem IsFirst.bears {markers : List Marker} {name : RouteMarker} {marker : Marker}
    (h : IsFirst markers name marker) : bears markers name = true := by
  obtain ⟨front, back, rfl, hname, -⟩ := h
  simp [Marker.bears, hname]

/-- No candidate is found if none is borne. -/
theorem find?_eq_none_iff {markers : List Marker} {candidates : List RouteMarker} :
    find? markers candidates = none ↔ ∀ name ∈ candidates, bears markers name = false := by
  simp only [find?, List.findSome?_eq_none_iff, Option.map_eq_none_iff, find?_denotes_eq_none_iff]

/-- The candidate that is found is the first one that some marker bears, whatever the order of the
markers is. -/
theorem find?_eq_some_iff {markers : List Marker} {candidates : List RouteMarker}
    {name : RouteMarker} {marker : Marker} :
    find? markers candidates = some (name, marker) ↔
      ∃ before behind, candidates = before ++ name :: behind ∧
        (∀ other ∈ before, bears markers other = false) ∧ IsFirst markers name marker := by
  rw [find?, List.findSome?_eq_some_iff]
  -- The first candidate counts of which there is a marker, and of its markers the first one.
  constructor
  · rintro ⟨before, candidate, behind, hcandidates, hfound, hbefore⟩
    obtain ⟨found, hfind, hpair⟩ := Option.map_eq_some_iff.mp hfound
    cases hpair
    refine ⟨before, behind, hcandidates, ?_, find?_denotes_eq_some_iff.mp hfind⟩
    intro other hmem
    exact find?_denotes_eq_none_iff.mp (Option.map_eq_none_iff.mp (hbefore other hmem))
  · rintro ⟨before, behind, hcandidates, hbefore, hfirst⟩
    refine ⟨before, name, behind, hcandidates, ?_, ?_⟩
    · rw [find?_denotes_eq_some_iff.mpr hfirst]
      rfl
    · intro other hmem
      rw [find?_denotes_eq_none_iff.mpr (hbefore other hmem)]
      rfl

end Marker

/-! ## Endpoints -/

namespace RouteMarker

/-- The markers that give a method a verb, by precedence. -/
def verbs : List RouteMarker := [get, post, delete, put]

theorem verb?_eq_none_iff {name : RouteMarker} : name.verb? = none ↔ name = group := by
  cases name <;> simp [verb?]

end RouteMarker

namespace Method

/-- Whether a method is registered: some marker of it is recognised, and none marks a group. -/
def isRouted (method : Method) : Bool :=
  method.markers.any (·.canonical?.isSome) && !Marker.bears method.markers .group

/-- The endpoint that a registered method of a type stands for. -/
structure StandsFor (method : Method) (handlerType : String) (endpoint : Endpoint) : Prop where
  /-- The verb is the first one that is borne, the pattern comes from its first marker. -/
  verb : ∃ before name behind marker, RouteMarker.verbs = before ++ name :: behind ∧
    (∀ other ∈ before, Marker.bears method.markers other = false) ∧
    Marker.IsFirst method.markers name marker ∧ name.verb? = some endpoint.verb ∧
    endpoint.pattern = marker.arguments
  parameters : endpoint.parameters = method.parameters
  handlerType : endpoint.handlerType = handlerType
  name : endpoint.method = method.name
  isAsync : endpoint.isAsync = method.isAsync
  hasReceiver : endpoint.hasReceiver = method.hasReceiver

variable {method : Method} {handlerType : String}

/-- A method is registered exactly if the first candidate that its markers bear is a verb. -/
theorem isRouted_iff : method.isRouted = true ↔
    ∃ name marker, Marker.find? method.markers RouteMarker.all = some (name, marker) ∧
      name ≠ .group := by
  have hany : method.markers.any (·.canonical?.isSome) = true ↔
      ∃ name, Marker.bears method.markers name = true := by
    simp only [Marker.bears, List.any_eq_true, Option.isSome_iff_exists, decide_eq_true_eq]
    exact ⟨fun ⟨marker, hmem, name, h⟩ => ⟨name, marker, hmem, h⟩,
      fun ⟨name, marker, hmem, h⟩ => ⟨marker, hmem, name, h⟩⟩
  rw [isRouted, Bool.and_eq_true_iff, Bool.not_eq_true', hany]
  constructor
  · rintro ⟨⟨name, hname⟩, hgroup⟩
    cases hfind : Marker.find? method.markers RouteMarker.all with
    | none =>
      have hall : name ∈ RouteMarker.all := by cases name <;> decide
      rw [Marker.find?_eq_none_iff.mp hfind name hall] at hname
      cases hname
    | some found =>
      obtain ⟨_, _, _, _, hfirst⟩ := Marker.find?_eq_some_iff.mp hfind
      refine ⟨found.1, found.2, rfl, fun heq => ?_⟩
      rw [← heq, hfirst.bears] at hgroup
      cases hgroup
  · rintro ⟨name, marker, hfind, hne⟩
    obtain ⟨before, behind, hcandidates, hbefore, hfirst⟩ := Marker.find?_eq_some_iff.mp hfind
    refine ⟨⟨name, hfirst.bears⟩, ?_⟩
    -- The group marker is the first candidate, and it is not the one that has been found.
    cases before with
    | nil => exact absurd (List.cons.inj hcandidates).1.symm hne
    | cons first before =>
      rw [(List.cons.inj hcandidates).1]
      exact hbefore first List.mem_cons_self

/-- The endpoint of a method is the one that it stands for. -/
theorem standsFor_of_endpoint? {endpoint : Endpoint}
    (h : method.endpoint? handlerType = some endpoint) :
    method.StandsFor handlerType endpoint := by
  obtain ⟨⟨name, marker⟩, hfind, hverb⟩ := Option.bind_eq_some_iff.mp h
  obtain ⟨verb, hname, hendpoint⟩ := Option.map_eq_some_iff.mp hverb
  obtain ⟨before, behind, hcandidates, hbefore, hfirst⟩ := Marker.find?_eq_some_iff.mp hfind
  subst hendpoint
  refine ⟨?_, rfl, rfl, rfl, rfl, rfl⟩
  -- The group marker is the first candidate, but it has no verb; so the one found comes later.
  cases before with
  | nil =>
    obtain ⟨hgroup, -⟩ := List.cons.inj hcandidates
    rw [← hgroup] at hname
    cases hname
  | cons first before =>
    obtain ⟨-, hverbs⟩ := List.cons.inj hcandidates
    exact ⟨before, name, behind, marker, hverbs,
      fun other hmem => hbefore other (List.mem_cons_of_mem _ hmem), hfirst, hname, rfl⟩

/-- Exactly the registered methods have endpoints. -/
theorem isSome_endpoint? : (method.endpoint? handlerType).isSome = method.isRouted := by
  rw [Bool.eq_iff_iff, isRouted_iff, Option.isSome_iff_exists]
  -- Only the group marker has no verb, and a method that it is found on is no route.
  constructor
  · rintro ⟨endpoint, h⟩
    obtain ⟨⟨name, marker⟩, hfind, hverb⟩ := Option.bind_eq_some_iff.mp h
    obtain ⟨verb, hname, -⟩ := Option.map_eq_some_iff.mp hverb
    refine ⟨name, marker, hfind, ?_⟩
    rintro rfl
    cases hname
  · rintro ⟨name, marker, hfind, hne⟩
    obtain ⟨verb, hverb⟩ :=
      Option.ne_none_iff_exists'.mp (fun hnone => hne (RouteMarker.verb?_eq_none_iff.mp hnone))
    simp [endpoint?, hfind, hverb]

end Method

/-! ## Groups -/

/-- What a type is declared with. -/
structure DeclaredType where
  modulePath : Option String
  name : String
  markers : List Marker
  methods : List Method
  deriving DecidableEq

namespace DeclaredType

/-- Whether a type is registered: it carries a group marker. -/
def isGrouped (type : DeclaredType) : Bool := Marker.bears type.markers .group

/-- The group that a registered type stands for. -/
structure StandsFor (type : DeclaredType) (group : Group) : Prop where
  typeName : group.typeName = type.name
  modulePath : group.modulePath = type.modulePath
  /-- The mount path comes from the first group marker. -/
  mountPath : ∃ marker, Marker.IsFirst type.markers .group marker ∧
    group.mountPath = .ofArguments marker.arguments
  /-- Each registered method has one endpoint, in order, and there are no others. -/
  endpoints : List.Forall₂ (·.StandsFor (qualifiedName type.modulePath type.name))
    (type.methods.filter (·.isRouted)) group.endpoints

/-- The group of a type on its own. -/
def group? (type : DeclaredType) : Option Group :=
  (Marker.find? type.markers [.group]).map fun (_, marker) =>
    { typeName := type.name
      modulePath := type.modulePath
      mountPath := .ofArguments marker.arguments
      endpoints := type.methods.filterMap
        (·.endpoint? (qualifiedName type.modulePath type.name)) }

end DeclaredType

/-- What a partial function makes of a list is related to the members where it is defined. -/
theorem forall₂_filterMap {α β : Type} {f : α → Option β} {p : α → Bool} {R : α → β → Prop}
    (hdefined : ∀ a, (f a).isSome = p a) (hrelated : ∀ a b, f a = some b → R a b) (list : List α) :
    List.Forall₂ R (list.filter p) (list.filterMap f) := by
  induction list with
  | nil => exact .nil
  | cons a rest ih =>
    have ha := hdefined a
    cases hf : f a with
    | none =>
      -- The test and the function agree about each element, so both keep it or drop it.
      have hp : p a = false := by rw [← ha, hf]; rfl
      rw [List.filter_cons_of_neg (by simp [hp]), List.filterMap_cons_none hf]
      exact ih
    | some b =>
      have hp : p a = true := by rw [← ha, hf]; rfl
      rw [List.filter_cons_of_pos hp, List.filterMap_cons_some hf]
      exact .cons (hrelated a b hf) ih

namespace DeclaredType

variable {type : DeclaredType}

theorem isSome_group? (type : DeclaredType) : type.group?.isSome = type.isGrouped := by
  -- With a single candidate the search is for this marker alone.
  have hfind : (Marker.find? type.markers [.group]).isSome =
      (type.markers.find? (·.denotes .group)).isSome := by
    simp [Marker.find?]
  rw [group?, Option.isSome_map, hfind, isGrouped]
  cases h : type.markers.find? (·.denotes .group) with
  | none => exact (Marker.find?_denotes_eq_none_iff.mp h).symm
  | some marker =>
    obtain ⟨front, back, hmarkers, hname, -⟩ := Marker.find?_denotes_eq_some_iff.mp h
    simp [Marker.bears, hmarkers, hname]

theorem standsFor_of_group? {group : Group} (h : type.group? = some group) :
    type.StandsFor group := by
  obtain ⟨⟨name, marker⟩, hfind, hgroup⟩ := Option.map_eq_some_iff.mp h
  obtain ⟨before, behind, hcandidates, -, hfirst⟩ := Marker.find?_eq_some_iff.mp hfind
  -- There is one candidate only.
  have hname : name = .group := by
    have hmem : name ∈ [RouteMarker.group] := by rw [hcandidates]; simp
    exact List.mem_singleton.mp hmem
  rw [hname] at hfirst
  subst hgroup
  refine ⟨rfl, rfl, ⟨marker, hfirst, rfl⟩, ?_⟩
  exact forall₂_filterMap (fun _ => Method.isSome_endpoint?)
    (fun _ _ => Method.standsFor_of_endpoint?) type.methods

end DeclaredType

/-! ## Programs -/

namespace Program

/-- Declares a type. -/
def declareType (program : Program) (type : DeclaredType) : Program :=
  program.declare type.modulePath type.name type.markers type.methods

/-- The program of some types, declared one after the other. -/
def ofTypes (entryPoint : Option EntryPoint) (types : List DeclaredType) : Program :=
  types.foldl declareType (.empty entryPoint)

theorem ofTypes_concat (entryPoint : Option EntryPoint) (types : List DeclaredType)
    (type : DeclaredType) :
    ofTypes entryPoint (types ++ [type]) = (ofTypes entryPoint types).declareType type := by
  simp [ofTypes]

/-- Every declaration has a number below the number of module paths, of which there is one for each
declaration. -/
structure IsNumbered (program : Program) : Prop where
  length_eq : program.modulePaths.length = program.types.length
  id_lt {declaration : Declaration} :
    declaration ∈ program.types → declaration.id < program.modulePaths.length

theorem IsNumbered.declareType {program : Program} (h : program.IsNumbered)
    (type : DeclaredType) : (program.declareType type).IsNumbered := by
  have hlength := h.length_eq
  constructor
  · simp [Program.declareType, declare, hlength]
  · intro declaration hmem
    simp only [Program.declareType, declare, List.length_append, List.length_singleton]
    -- Old types keep their numbers, and the new one gets the next.
    rcases List.mem_append.mp hmem with hold | hnew
    · have hlt := h.id_lt hold
      omega
    · rw [List.mem_singleton.mp hnew]
      simp [hlength]

theorem isNumbered_ofTypes (entryPoint : Option EntryPoint) (types : List DeclaredType) :
    (ofTypes entryPoint types).IsNumbered := by
  induction types using List.reverseRecOn with
  | nil => exact ⟨rfl, nofun⟩
  | append_singleton types type ih =>
    rw [ofTypes_concat]
    exact ih.declareType type

/-- A further declaration leaves the groups of the earlier ones, and its own group is that of its
type. -/
theorem filterMap_group?_declareType {program : Program} (h : program.IsNumbered)
    (type : DeclaredType) :
    (program.declareType type).types.filterMap (program.declareType type).group? =
      program.types.filterMap program.group? ++ type.group?.toList := by
  -- The groups of earlier types stay, as modules are only added.
  have hold : ∀ declaration ∈ program.types,
      (program.declareType type).group? declaration = program.group? declaration := by
    intro declaration hmem
    simp only [group?, Program.declareType, modulePathOf_declare_of_lt (h.id_lt hmem)]
  -- The new type is found under the number that it gets.
  have hnew : (program.declareType type).group?
      ⟨program.types.length, type.name, type.markers, type.methods⟩ = type.group? := by
    simp only [group?, DeclaredType.group?, Program.declareType,
      modulePathOf_declare_self h.length_eq]
  have htypes : (program.declareType type).types = program.types ++
      [⟨program.types.length, type.name, type.markers, type.methods⟩] := rfl
  rw [htypes, List.filterMap_append, List.filterMap_congr hold]
  cases hgroup : type.group? with
  | none => rw [List.filterMap_cons_none (hnew.trans hgroup)]; rfl
  | some group => rw [List.filterMap_cons_some (hnew.trans hgroup)]; rfl

/-- The groups of a program are those of its types, each on its own. -/
theorem filterMap_group?_ofTypes (entryPoint : Option EntryPoint) (types : List DeclaredType) :
    (ofTypes entryPoint types).types.filterMap (ofTypes entryPoint types).group? =
      types.filterMap (·.group?) := by
  induction types using List.reverseRecOn with
  | nil => rfl
  | append_singleton types type ih =>
    rw [ofTypes_concat, filterMap_group?_declareType (isNumbered_ofTypes entryPoint types), ih,
      List.filterMap_append]
    cases hgroup : type.group? with
    | none => rw [List.filterMap_cons_none hgroup]; rfl
    | some group => rw [List.filterMap_cons_some hgroup]; rfl

theorem length_types_ofTypes (entryPoint : Option EntryPoint) (types : List DeclaredType) :
    (ofTypes entryPoint types).types.length = types.length := by
  induction types using List.reverseRecOn with
  | nil => rfl
  | append_singleton types type ih => simp [ofTypes_concat, declareType, declare, ih]

/-- Without a cancellation, the groups are collected in order. -/
theorem groupsOf_eq_ok (program : Program) (token : CancellationToken)
    (declarations : List Declaration) :
    ∀ check, (∀ i < declarations.length, token.isCancelledAt (check + i) = false) →
      program.groupsOf token check declarations = .ok (declarations.filterMap program.group?) := by
  induction declarations with
  | nil => exact fun check _ => rfl
  | cons declaration rest ih =>
    intro check hchecks
    have hrest : ∀ i < rest.length, token.isCancelledAt (check + 1 + i) = false := by
      intro i hi
      rw [Nat.add_right_comm]
      exact hchecks (i + 1) (by simpa using hi)
    -- Each type is behind one check, which is passed.
    have hguard : token.guardAt check = .ok () := by
      rw [CancellationToken.guardAt, if_neg]
      simpa using hchecks 0 (by simp)
    rw [groupsOf, hguard, ih (check + 1) hrest]
    cases hgroup : program.group? declaration with
    | none => rw [List.filterMap_cons_none hgroup]; rfl
    | some group => rw [List.filterMap_cons_some hgroup]; rfl

/-- The plan of some types, declared one after the other. -/
theorem plan_ofTypes_eq {token : CancellationToken} {check : Nat} {types : List DeclaredType}
    (hchecks : ∀ i < types.length, token.isCancelledAt (check + i) = false)
    (entryPoint : Option EntryPoint) :
    (ofTypes entryPoint types).plan token check = .ok ⟨types.filterMap (·.group?)⟩ := by
  rw [plan, groupsOf_eq_ok, filterMap_group?_ofTypes]
  · rfl
  · rwa [length_types_ofTypes]

end Program

/-! ## Changes without an effect -/

/-- Changes of a list of markers that keep the order of all markers of one name: leaving out a
marker that is not recognised, and exchanging neighbours of different names. -/
inductive Marker.Changes : List Marker → List Marker → Prop where
  | leaveOut {front back : List Marker} {marker : Marker} : marker.canonical? = none →
      Changes (front ++ marker :: back) (front ++ back)
  | exchange {front back : List Marker} {first second : Marker} :
      first.canonical? ≠ second.canonical? →
      Changes (front ++ first :: second :: back) (front ++ second :: first :: back)

/-- Changes of a type: of its markers, of the markers of a method, and leaving out a method without
recognised markers. -/
inductive DeclaredType.Changes : DeclaredType → DeclaredType → Prop where
  | markers {type : DeclaredType} {markers : List Marker} :
      Marker.Changes type.markers markers → Changes type { type with markers }
  | methodMarkers {type : DeclaredType} {front back : List Method} {method : Method}
      {markers : List Marker} :
      type.methods = front ++ method :: back → Marker.Changes method.markers markers →
      Changes type { type with methods := front ++ { method with markers } :: back }
  | leaveOut {type : DeclaredType} {front back : List Method} {method : Method} :
      type.methods = front ++ method :: back → method.markers.all (·.canonical? = none) →
      Changes type { type with methods := front ++ back }

/-- Changes of the types of a program: of one of them, and leaving out a type without a group
marker. -/
inductive Program.Changes : List DeclaredType → List DeclaredType → Prop where
  | type {front back : List DeclaredType} {type other : DeclaredType} :
      type.Changes other → Changes (front ++ type :: back) (front ++ other :: back)
  | leaveOut {front back : List DeclaredType} {type : DeclaredType} : type.isGrouped = false →
      Changes (front ++ type :: back) (front ++ back)

/-- A change of markers keeps the first marker of each name. -/
theorem Marker.Changes.find?_eq {markers others : List Marker} (h : Changes markers others)
    (name : RouteMarker) :
    others.find? (·.denotes name) = markers.find? (·.denotes name) := by
  cases h with
  | leaveOut hnone => simp [List.find?_append, denotes_eq, hnone]
  | @exchange front back first second hne =>
    -- One of the two markers at most has the name, so their order does not matter.
    have hboth : ¬(first.canonical? = some name ∧ second.canonical? = some name) :=
      fun h => hne (h.1.trans h.2.symm)
    simp only [List.find?_append, List.find?_cons, denotes_eq]
    by_cases hfirst : first.canonical? = some name
    · have hsecond : second.canonical? ≠ some name := fun h => hboth ⟨hfirst, h⟩
      simp [hfirst, hsecond]
    · simp [hfirst]

theorem Marker.Changes.findCandidate?_eq {markers others : List Marker}
    (h : Changes markers others) (candidates : List RouteMarker) :
    Marker.find? others candidates = Marker.find? markers candidates := by
  simp only [Marker.find?, h.find?_eq]

/-- A change of a type keeps its group. -/
theorem DeclaredType.Changes.group?_eq {type other : DeclaredType} (h : type.Changes other) :
    other.group? = type.group? := by
  -- Markers are looked for by their names only, and unmarked methods are left out.
  cases h with
  | markers hmarkers => simp only [DeclaredType.group?, hmarkers.findCandidate?_eq]
  | @methodMarkers front back method markers hmethods hmarkers =>
    have hendpoint : ∀ handlerType, ({ method with markers } : Method).endpoint? handlerType =
        method.endpoint? handlerType := by
      intro handlerType
      simp only [Method.endpoint?, hmarkers.findCandidate?_eq]
    simp only [DeclaredType.group?, hmethods, List.filterMap_append, List.filterMap_cons, hendpoint]
  | @leaveOut front back method hmethods hunmarked =>
    have hrouted : method.isRouted = false := by
      have hnone : method.markers.any (·.canonical?.isSome) = false := by
        simp only [List.all_eq_true, decide_eq_true_eq] at hunmarked
        simpa using hunmarked
      rw [Method.isRouted, hnone]
      rfl
    have hendpoint : ∀ handlerType, method.endpoint? handlerType = none := by
      intro handlerType
      rw [← Option.not_isSome_iff_eq_none, Method.isSome_endpoint?, hrouted]
      decide
    simp only [DeclaredType.group?, hmethods, List.filterMap_append, List.filterMap_cons, hendpoint]

/-- A change of types keeps all groups. -/
theorem Program.Changes.filterMap_group?_eq {types others : List DeclaredType}
    (h : Changes types others) :
    others.filterMap (·.group?) = types.filterMap (·.group?) := by
  cases h with
  | type htype => simp only [List.filterMap_append, List.filterMap_cons, htype.group?_eq]
  | leaveOut hgrouped =>
    rename_i type
    -- A type without a group marker gives no group, so it may be left out.
    have hgroup : type.group? = none := by
      rw [← Option.not_isSome_iff_eq_none, DeclaredType.isSome_group?, hgrouped]
      decide
    simp only [List.filterMap_append, List.filterMap_cons, hgroup]

/-- So do any number of changes, made and undone. -/
theorem Program.filterMap_group?_eq_of_eqvGen {types others : List DeclaredType}
    (h : Relation.EqvGen Program.Changes types others) :
    others.filterMap (·.group?) = types.filterMap (·.group?) := by
  induction h with
  | rel _ _ hchanges => exact hchanges.filterMap_group?_eq
  | refl => rfl
  | symm _ _ _ ih => exact ih.symm
  | trans _ _ _ _ _ ih ihnext => exact ihnext.trans ih

namespace Program

/-- **Extraction is exact**: the plan of types that are declared one after the other, by a pass that
is not cancelled, has one group for each type with a group marker, in order, and that is the group
which the type stands for. The plan stays the same when markers that are not recognised, methods
without recognised markers and types without a group marker are left out or added, and when markers
of different names change places. -/
theorem plan_ofTypes {token : CancellationToken} {check : Nat} {types : List DeclaredType}
    (hchecks : ∀ i < types.length, token.isCancelledAt (check + i) = false)
    (entryPoint : Option EntryPoint) :
    ∃ plan, (ofTypes entryPoint types).plan token check = .ok plan ∧
      List.Forall₂ DeclaredType.StandsFor (types.filter (·.isGrouped)) plan.groups ∧
      ∀ others, Relation.EqvGen Changes types others →
        (ofTypes entryPoint others).plan .never check = .ok plan := by
  refine ⟨_, plan_ofTypes_eq hchecks entryPoint, ?_, ?_⟩
  · exact forall₂_filterMap DeclaredType.isSome_group?
      (fun _ _ => DeclaredType.standsFor_of_group?) types
  · intro others hchanges
    rw [plan_ofTypes_eq (fun _ _ => rfl), filterMap_group?_eq_of_eqvGen hchanges]

/-- Two types, the second one without a group marker. Of the methods of the first one only the first
is registered, with a verb that stands behind another one and with the first marker of that verb.
The token fires behind the second type. -/
theorem plan_ofTypes_mixed :
    let token : CancellationToken := ⟨some 5⟩
    let list : Method := ⟨"list", [⟨"put", "\"/put\""⟩, ⟨"a::GetAttribute", "\"/a\""⟩,
      ⟨"inline", ""⟩, ⟨"get", "\"/b\""⟩], [⟨"id", "u8"⟩], true, false⟩
    let todo : DeclaredType := ⟨some "crate::a", "Todo", [⟨"derive", "Debug"⟩,
      ⟨"Group", "\"/todo/\""⟩, ⟨"group", "other"⟩], [list,
      ⟨"nested", [⟨"get", ""⟩, ⟨"group", ""⟩], [], false, true⟩,
      ⟨"plain", [⟨"inline", ""⟩], [], false, true⟩]⟩
    let note : DeclaredType := ⟨none, "Note", [⟨"get", ""⟩], [list]⟩
    (∀ i < [todo, note].length, token.isCancelledAt (3 + i) = false) ∧
      ∃ plan, (ofTypes none [todo, note]).plan token 3 = .ok plan ∧
        plan = ⟨[⟨"Todo", some "crate::a", .literal "todo", [⟨.get, "\"/a\"", [⟨"id", "u8"⟩],
          "crate::a::Todo", "list", true, false⟩]⟩]⟩ ∧
        [todo, note].filter (·.isGrouped) = [todo] ∧ todo.methods.filter (·.isRouted) = [list] ∧
        List.Forall₂ DeclaredType.StandsFor [todo] plan.groups ∧
        (ofTypes none [todo]).plan .never 3 = .ok plan := by
  intro token list todo note
  have hchecks : ∀ i < [todo, note].length, token.isCancelledAt (3 + i) = false := by decide
  obtain ⟨plan, hplan, hgroups, hothers⟩ := plan_ofTypes hchecks none
  -- The second type has no group marker, so without it the plan is the same.
  have hnote : Changes ([todo] ++ [note]) ([todo] ++ []) := .leaveOut (by decide +kernel)
  have hfilter : [todo, note].filter (·.isGrouped) = [todo] := by decide +kernel
  have hmethods : todo.methods.filter (·.isRouted) = [list] := by decide +kernel
  have hvalue : ((ofTypes none [todo, note]).plan token 3).toOption = some ⟨[⟨"Todo",
      some "crate::a", .literal "todo", [⟨.get, "\"/a\"", [⟨"id", "u8"⟩], "crate::a::Todo", "list",
      true, false⟩]⟩]⟩ := by decide +kernel
  rw [hfilter] at hgroups
  rw [hplan] at hvalue
  exact ⟨hchecks, plan, hplan, Option.some.inj hvalue, hfilter, hmethods, hgroups,
    hothers _ (.rel _ _ hnote)⟩

end Program

end RouteRegistrar
