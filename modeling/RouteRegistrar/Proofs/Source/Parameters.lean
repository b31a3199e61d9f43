import Mathlib.Data.List.Nodup
import RouteRegistrar.Proofs.Token.Identifiers
import RouteRegistrar.Route.Registration
import RouteRegistrar.Source.Scan

/-!
# Names of parameters

A parameter that is written as a plain name keeps it. Any other one is named by its position, so
that the closure which answers a request has a name for each of its parameters.

Names of positions are not kept apart from written names. This module says exactly when two
parameters of a method get the same name, and so when the closure binds a name twice: a parameter
without a plain name stands at a position whose name has been written for another parameter.
-/

namespace RouteRegistrar

open Token

/-! ## Names -/

/-- The identifier that a name stands for, which is the same with and without a raw marker. -/
def Token.bareName (name : String) : String :=
  match name.toList with
  | 'r' :: '#' :: rest => String.ofList rest
  | _ => name

namespace SourceParameter

/-- The name of a parameter that is no plain name. -/
def positionName (position : Nat) : String := "arg" ++ toString position

theorem toList_positionName (position : Nat) :
    (positionName position).toList = 'a' :: 'r' :: 'g' :: Nat.toDigits 10 position := by
  simp [positionName]

theorem positionName_injective : Function.Injective positionName := by
  intro position other h
  have hdigits := congrArg String.toList h
  simp only [toList_positionName, List.cons.injEq, true_and] at hdigits
  rw [← Nat.ofDigitChars_ten_toDigits (n := position), hdigits, Nat.ofDigitChars_ten_toDigits]

theorem bareName_positionName (position : Nat) :
    bareName (positionName position) = positionName position := by
  unfold bareName
  -- The name begins with another letter than a raw identifier.
  split
  case h_1 rest heq =>
    rw [toList_positionName] at heq
    injection heq with hfirst
    cases hfirst
  case h_2 => rfl

theorem isIdent_positionName (position : Nat) : IsIdent (positionName position) := by
  have hstart : Text.isIdStart 'a' = true := by decide +kernel
  have hletters : ['r', 'g'].all Text.isIdContinue = true := by decide +kernel
  have hrest : ('r' :: 'g' :: Nat.toDigits 10 position).dropWhile Text.isIdContinue = [] := by
    rw [List.dropWhile_eq_nil_iff]
    intro c hc
    rcases List.mem_append (s := ['r', 'g']).mp hc with hletter | hdigit
    · exact List.all_eq_true.mp hletters c hletter
    · exact Text.isIdContinue_of_mem_toDigits hdigit
  rw [IsIdent, toList_positionName]
  simp [ident?, word?, hstart, hrest]

/-- The names that are written for parameters. -/
def written (found : List SourceParameter) : List String := found.filterMap (·.name)

/-- The names of parameters that stand behind the given number of others. -/
def namesFrom (index : Nat) : List SourceParameter → List String
  | [] => []
  | parameter :: rest => parameter.name.getD (positionName index) :: namesFrom (index + 1) rest

/-- The parameter at a position is no plain name. -/
def UnnamedAt (found : List SourceParameter) (position : Nat) : Prop :=
  ∃ parameter, found[position]? = some parameter ∧ parameter.name = none

section Names

variable {parameter : SourceParameter} {found rest : List SourceParameter} {index : Nat}

theorem not_unnamedAt_nil (position : Nat) : ¬ UnnamedAt [] position := by
  simp [UnnamedAt]

theorem exists_unnamedAt_cons {P : Nat → Prop} :
    (∃ position, UnnamedAt (parameter :: rest) position ∧ P position) ↔
      (parameter.name = none ∧ P 0) ∨ ∃ position, UnnamedAt rest position ∧ P (position + 1) := by
  rw [← Nat.or_exists_add_one]
  simp only [UnnamedAt, List.getElem?_cons_zero, List.getElem?_cons_succ, Option.some.injEq,
    exists_eq_left']

theorem forall_unnamedAt_cons {P : Nat → Prop} :
    (∀ position, UnnamedAt (parameter :: rest) position → P position) ↔
      (parameter.name = none → P 0) ∧ ∀ position, UnnamedAt rest position → P (position + 1) := by
  rw [← Nat.and_forall_add_one]
  simp only [UnnamedAt, List.getElem?_cons_zero, List.getElem?_cons_succ, Option.some.injEq,
    exists_eq_left']

theorem namesFrom_of_parameters {qualifier : Qualifier} {parameters : List Parameter}
    (h : Scan.parameters qualifier index found = .ok parameters) :
    parameters.map (·.name) = namesFrom index found := by
  induction found generalizing index parameters with
  | nil =>
    cases h
    rfl
  | cons parameter rest ih =>
    rw [Scan.parameters] at h
    obtain ⟨type, -, h⟩ := bind_eq_ok.mp h
    obtain ⟨others, hothers, h⟩ := bind_eq_ok.mp h
    cases h
    -- The type may fail to be qualified, but it has no part in the name.
    rw [List.map_cons, ih hothers]
    rfl

variable {view : String → String}

theorem written_cons_none (h : parameter.name = none) :
    written (parameter :: rest) = written rest :=
  List.filterMap_cons_none h

theorem written_cons_some {name : String} (h : parameter.name = some name) :
    written (parameter :: rest) = name :: written rest :=
  List.filterMap_cons_some h

/-- A name is written, or it is the name of a position. -/
theorem mem_map_namesFrom (hview : ∀ position, view (positionName position) = positionName position)
    {name : String} : name ∈ (namesFrom index found).map view ↔
      name ∈ (written found).map view ∨
        ∃ position, UnnamedAt found position ∧ positionName (index + position) = name := by
  induction found generalizing index with
  | nil => simp [namesFrom, written, not_unnamedAt_nil]
  | cons parameter rest ih =>
    have hshift : ∀ position, index + 1 + position = index + (position + 1) := by omega
    rw [namesFrom, List.map_cons, List.mem_cons, ih, exists_unnamedAt_cons]
    simp only [hshift, Nat.add_zero]
    -- The first parameter adds its position to the unnamed ones, or its name to the written ones.
    cases hname : parameter.name with
    | none =>
      rw [written_cons_none hname, Option.getD_none, hview]
      simp only [true_and, eq_comm (a := name), or_left_comm]
    | some given =>
      rw [written_cons_some hname, Option.getD_some, List.map_cons, List.mem_cons]
      simp only [reduceCtorEq, false_and, false_or, or_assoc]

/-- Names are distinct unless the name of a position has been written. -/
theorem nodup_map_namesFrom
    (hview : ∀ position, view (positionName position) = positionName position)
    (hwritten : ((written found).map view).Nodup) : ((namesFrom index found).map view).Nodup ↔
      ∀ position, UnnamedAt found position →
        positionName (index + position) ∉ (written found).map view := by
  induction found generalizing index with
  | nil => simp [namesFrom, not_unnamedAt_nil]
  | cons parameter rest ih =>
    have hshift : ∀ position, index + 1 + position = index + (position + 1) := by omega
    rw [namesFrom, List.map_cons, List.nodup_cons, mem_map_namesFrom hview, forall_unnamedAt_cons]
    simp only [hshift, Nat.add_zero]
    cases hname : parameter.name with
    | none =>
      rw [written_cons_none hname] at hwritten ⊢
      rw [ih hwritten, Option.getD_none, hview]
      -- Names of different positions differ, so only written names can be in the way.
      have hdistinct : ∀ position, positionName (index + (position + 1)) ≠ positionName index := by
        intro position h
        have := positionName_injective h
        omega
      simp only [hshift, hdistinct, and_false, exists_false, or_false, true_implies]
    | some given =>
      rw [written_cons_some hname, List.map_cons] at hwritten ⊢
      obtain ⟨hgiven, hrest⟩ := List.nodup_cons.mp hwritten
      -- The written names are distinct, so the first one is in the way of positions only.
      rw [ih hrest, Option.getD_some]
      simp only [hgiven, hshift, false_or, not_exists, not_and, reduceCtorEq, false_implies,
        true_and, List.mem_cons, not_or, ← forall_and]

end Names

end SourceParameter

/-! ## Closures -/

/-- The names of the parameters of a method, in order. -/
def Method.parameterNames (method : Method) : List String := method.parameters.map (·.name)

namespace Registration

variable {names : List String}

theorem fragment_of_isIdent {name : String} (h : IsIdent name) : fragment name = [ident name] := by
  rw [fragment, tokenize_of_isIdent h]

/-- The position of the first parameter that binds an identifier. -/
def boundPosition (names : List String) (name : String) : Nat :=
  (names.map bareName).idxOf (bareName name)

/-- Every name stands for the parameter at its own position just if no identifier is bound
twice. -/
theorem boundPosition_eq_iff : (∀ position name, names[position]? = some name →
    boundPosition names name = position) ↔ (names.map bareName).Nodup := by
  -- A name is bound where its bare form comes first, so two positions need two bare names.
  constructor
  · intro h
    rw [List.nodup_iff_injective_getElem]
    intro ⟨first, hfirst⟩ ⟨second, hsecond⟩ heq
    have hfirst' : first < names.length := by simpa using hfirst
    have hsecond' : second < names.length := by simpa using hsecond
    simp only [List.getElem_map] at heq
    have hposition := h first names[first] (List.getElem?_eq_getElem hfirst')
    rw [boundPosition, heq] at hposition
    have hother := h second names[second] (List.getElem?_eq_getElem hsecond')
    exact Fin.ext (hposition.symm.trans hother)
  · intro hnodup position name hname
    obtain ⟨hlt, rfl⟩ := List.getElem?_eq_some_iff.mp hname
    have hbound : position < (names.map bareName).length := by simpa using hlt
    have := hnodup.idxOf_getElem position hbound
    rwa [List.getElem_map] at this

theorem handler_of_isIdent {endpoint : Endpoint}
    (h : ∀ parameter ∈ endpoint.parameters, IsIdent parameter.name) :
    ∃ callee behind, handler endpoint =
      operator "|" ++ commaSeparated (endpoint.parameters.map fun parameter =>
          ident parameter.name :: operator ":" ++ fragment parameter.type) ++
        operator "|" ++ [ident "async", ident "move", braces (callee ++
          parens (commaSeparated (endpoint.parameters.map fun parameter =>
            [ident parameter.name])) :: behind)] := by
  -- The text of an identifier is one token, so nothing of a fragment is left to interpret.
  have hinputs : (endpoint.parameters.map fun parameter =>
        fragment parameter.name ++ operator ":" ++ fragment parameter.type) =
      endpoint.parameters.map fun parameter =>
        ident parameter.name :: operator ":" ++ fragment parameter.type := by
    apply List.map_congr_left
    intro parameter hparameter
    rw [fragment_of_isIdent (h parameter hparameter)]
    rfl
  have harguments : (endpoint.parameters.map (fragment ·.name)) =
      endpoint.parameters.map fun parameter => [ident parameter.name] :=
    List.map_congr_left fun parameter hparameter => fragment_of_isIdent (h parameter hparameter)
  rw [handler, call, hinputs, harguments]
  simp only [List.append_assoc _ [_], List.singleton_append]
  exact ⟨_, _, rfl⟩

end Registration

namespace SourceMethod

open SourceParameter Registration

/-- A parameter without a plain name stands at a position whose name is written for another
parameter, as far as a view of the names tells. -/
def NamesTwice (found : SourceMethod) (view : String → String) : Prop :=
  ∃ position, UnnamedAt found.parameters position ∧
    positionName position ∈ (written found.parameters).map view

variable {qualifier : Qualifier} {found : SourceMethod} {method : Method}

theorem names_of_method (h : Scan.method qualifier found = .ok method) :
    method.parameterNames = namesFrom 0 found.parameters := by
  rw [Scan.method] at h
  obtain ⟨parameters, hparameters, h⟩ := bind_eq_ok.mp h
  cases h
  exact namesFrom_of_parameters hparameters

theorem isIdent_of_method (h : Scan.method qualifier found = .ok method)
    (hident : ∀ name ∈ written found.parameters, IsIdent name) :
    ∀ parameter ∈ method.parameters, IsIdent parameter.name := by
  intro parameter hparameter
  have hname : parameter.name ∈ (namesFrom 0 found.parameters).map id := by
    rw [List.map_id, ← names_of_method h]
    exact List.mem_map_of_mem hparameter
  -- A name is written in the source or made from a position, and both are identifiers.
  rcases (mem_map_namesFrom fun _ => rfl).mp hname with hgiven | ⟨position, -, hposition⟩
  · exact hident _ (by simpa using hgiven)
  · rw [← hposition]
    exact isIdent_positionName _

/-- The names of a method are distinct in a view just if no position is named twice. -/
theorem nodup_map_names_iff (h : Scan.method qualifier found = .ok method) {view : String → String}
    (hview : ∀ position, view (positionName position) = positionName position)
    (hwritten : ((written found.parameters).map view).Nodup) :
    (method.parameterNames.map view).Nodup ↔ ¬ found.NamesTwice view := by
  rw [names_of_method h, nodup_map_namesFrom hview hwritten]
  simp only [Nat.zero_add, NamesTwice, not_exists, not_and]

/-- **A closure binds the names of its parameters, and each of its arguments is the parameter at
its position, unless a parameter without a plain name gets a name that is written for another
one.** -/
theorem closure_binds_once_iff (h : Scan.method qualifier found = .ok method)
    (hident : ∀ name ∈ written found.parameters, IsIdent name)
    (hwritten : ((written found.parameters).map bareName).Nodup) :
    (method.parameterNames.Nodup ↔ ¬ found.NamesTwice id) ∧
      ((method.parameterNames.map bareName).Nodup ↔ ¬ found.NamesTwice bareName) ∧
      ((∀ position name, method.parameterNames[position]? = some name →
        boundPosition method.parameterNames name = position) ↔ ¬ found.NamesTwice bareName) ∧
      ∀ handlerType endpoint, method.endpoint? handlerType = some endpoint →
        ∃ callee behind, handler endpoint =
          operator "|" ++ commaSeparated (method.parameters.map fun parameter =>
              ident parameter.name :: operator ":" ++ fragment parameter.type) ++
            operator "|" ++ [ident "async", ident "move", braces (callee ++
              parens (commaSeparated (method.parameterNames.map fun name => [ident name])) ::
              behind)] := by
  have hnames : (method.parameterNames.map bareName).Nodup ↔ ¬ found.NamesTwice bareName :=
    nodup_map_names_iff h bareName_positionName hwritten
  refine ⟨?_, hnames, boundPosition_eq_iff.trans hnames, ?_⟩
  · -- Names that differ without `r#` differ with it, so the same lemma serves for exact names.
    have hdistinct : ((written found.parameters).map id).Nodup := by
      rw [List.map_id]
      exact hwritten.of_map
    have hid := nodup_map_names_iff h (fun _ => rfl) hdistinct
    rwa [List.map_id] at hid
  · intro handlerType endpoint hendpoint
    obtain ⟨⟨name, marker⟩, -, hverb⟩ := Option.bind_eq_some_iff.mp hendpoint
    obtain ⟨verb, -, rfl⟩ := Option.map_eq_some_iff.mp hverb
    rw [Method.parameterNames, List.map_map]
    exact handler_of_isIdent (isIdent_of_method h hident)

/-- A method with a parameter that has the name of the position behind it, where a pattern
stands. -/
def patternBehindName : SourceMethod where
  name := "list"
  markers := [⟨"get", ""⟩]
  parameters :=
    let type := Tree.node .typePath [Grammar.plainPath (.word "u8")]
    [⟨some "arg1", type⟩, ⟨none, type⟩]
  isAsync := false
  hasReceiver := true

/-- The qualifier of a block for a type of an empty module. -/
def emptyQualifier : Qualifier :=
  ⟨.ofItems ⟨.target .entry, []⟩ [], ⟨.target .entry, ["Api"]⟩, none⟩

/-- Both parameters get one name, and the closure binds it twice. -/
theorem closure_of_patternBehindName :
    ∃ method, Scan.method emptyQualifier patternBehindName = .ok method ∧
      method.parameterNames = ["arg1", "arg1"] ∧
      ¬ (method.parameterNames.map bareName).Nodup := by
  obtain ⟨method, hmethod, hnames⟩ : ∃ method,
      Scan.method emptyQualifier patternBehindName = .ok method ∧
        method.parameterNames = ["arg1", "arg1"] := ⟨_, rfl, by decide⟩
  -- The pattern gets the name of its position, which the first parameter has already.
  have htwice : patternBehindName.NamesTwice bareName :=
    ⟨1, ⟨_, rfl, rfl⟩, by decide⟩
  have hclosure := closure_binds_once_iff hmethod (by decide +kernel) (by decide)
  exact ⟨method, hmethod, hnames, fun h => hclosure.2.1.mp h htwice⟩

end SourceMethod

end RouteRegistrar
