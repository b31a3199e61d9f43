import RouteRegistrar.Proofs.Source.ImportOrder

/-!
# Imports that hide declared items

A name may be declared and imported in one module if the import is a macro or a function, since the
language keeps these apart from types and modules. A scope does not tell them apart and looks at its
imports first. So a path that starts at a declared name leads past the item of the module wherever
the name is imported from somewhere else.

Which import counts is the last one of the name, read with the imports in front of it.
-/

namespace RouteRegistrar

namespace ModuleScope

variable {path : ItemPath} {items : List SourceItem} {name : String} {rest : List String}

/-- The last import of a name, and the imports in front of it. -/
structure IsLastImport (items : List SourceItem) (before : List Import) (last : Import)
    (name : String) : Prop where
  name_eq : last.name = name
  isLast : ∃ after, items.flatMap (·.imports) = before ++ last :: after ∧
    name ∉ after.map (·.name)

/-- Among imports of a name there is a last one. -/
theorem exists_isLastImport (h : name ∈ items.flatMap (·.importedNames)) :
    ∃ before last, IsLastImport items before last name := by
  have hmap : name ∈ (items.flatMap (·.imports)).map (·.name) := by
    rwa [List.map_flatMap]
  -- By induction over the imports: the last one is in the rest, if the rest has the name at all.
  suffices hsplit : ∀ found : List Import, name ∈ found.map (·.name) →
      ∃ before last after, found = before ++ last :: after ∧ last.name = name ∧
        name ∉ after.map (·.name) by
    obtain ⟨before, last, after, hfound, hname, hafter⟩ := hsplit _ hmap
    exact ⟨before, last, hname, after, hfound, hafter⟩
  intro found hmem
  induction found with
  | nil => cases hmem
  | cons first more ih =>
    by_cases hmore : name ∈ more.map (·.name)
    · obtain ⟨before, last, after, rfl, hname, hafter⟩ := ih hmore
      exact ⟨first :: before, last, after, rfl, hname, hafter⟩
    · rcases List.mem_cons.mp hmem with hfirst | hrest
      · exact ⟨[], first, more, rfl, hfirst.symm, hmore⟩
      · exact absurd hrest hmore

/-- A name stands for the path of its last import. -/
theorem imported?_of_isLastImport {before : List Import} {last : Import}
    (h : IsLastImport items before last name) :
    (ofItems path items).imported? name = (withImports path items before).absolute? last.path := by
  obtain ⟨rfl, after, hsplit, hafter⟩ := h
  rw [ofItems_eq_withImports, hsplit]
  refine imported?_foldl_bind_of_split _ (fun i hi => ?_) hafter
  exact isResolvable_of_mem_flatMap (hsplit ▸ hi)

/-- **Where declared items are found**: a path that starts at a declared name leads to the item of
the module exactly if the name is not imported, or its last import stands for this very item. Any
other import of the name hides the item, be it a macro or a function. -/
theorem resolve?_of_declared_iff (path : ItemPath) (items : List SourceItem) (name : String)
    (rest : List String) (hdeclared : name ∈ items.filterMap declaredName?)
    (hfixed : name ∉ fixedNames) :
    ((ofItems path items).resolve? (name :: rest) = some (path.append (name :: rest)) ∧
      (ofItems path items).absolute? (name :: rest) = some (path.append (name :: rest))) ↔
    ∀ before last, IsLastImport items before last name →
      (withImports path items before).absolute? last.path = some (path.append [name]) := by
  have hscope : name ∈ (ofItems path items).declared := by
    rw [ofItems_eq_withImports, declared_withImports]
    exact hdeclared
  have hknows : (ofItems path items).knows name = true := by simp [knows, hscope]
  have hresolve : (ofItems path items).resolve? (name :: rest) =
      (ofItems path items).absolute? (name :: rest) := by
    rw [resolve?, if_pos hknows]
  have hown : path.append (name :: rest) = (path.append [name]).append rest := by
    simp [ItemPath.append]
  -- The path goes on from what the name stands for.
  rw [hresolve, and_self, absolute?_of_not_fixed hfixed, hown, Option.some.injEq,
    ItemPath.append_right_inj, meaning]
  constructor
  · intro hmeaning before last hlast
    obtain ⟨after, hsplit, -⟩ := hlast.isLast
    have hmem : last ∈ items.flatMap (·.imports) := by simp [hsplit]
    have hresolvable : last.isResolvable = true := isResolvable_of_mem_flatMap hmem
    obtain ⟨target, htarget⟩ :=
      Option.isSome_iff_exists.mp ((isSome_absolute?_iff (withImports path items before) last).mpr
        hresolvable)
    rw [imported?_of_isLastImport hlast, htarget, Option.getD_some] at hmeaning
    rw [htarget, hmeaning]
  · intro h
    by_cases himported : name ∈ items.flatMap (·.importedNames)
    · obtain ⟨before, last, hlast⟩ := exists_isLastImport himported
      rw [imported?_of_isLastImport hlast, h before last hlast, Option.getD_some]
    · rw [imported?_ofItems_of_not_mem himported, Option.getD_none, unimported,
        if_pos (by simpa using hscope), path_ofItems]

/-- A module that imports a macro and has a child module of the same name. -/
def macroAndModule : List SourceItem :=
  [.use false (.path "aot_routes" (.name "get")),
    .inlineModule "get" none [.declaration "Query"]]

/-- The macro hides the child module: a type in it is looked for behind the macro. -/
theorem resolve?_of_imported_macro :
    let path : ItemPath := ⟨.target .entry, ["api"]⟩
    let scope := ofItems path macroAndModule
    "get" ∈ macroAndModule.filterMap declaredName? ∧ "get" ∉ fixedNames ∧
      scope.resolve? ["get", "Query"] = some ⟨.everything, ["aot_routes", "get", "Query"]⟩ ∧
      ¬ ∀ before last, IsLastImport macroAndModule before last "get" →
        (withImports path macroAndModule before).absolute? last.path =
          some (path.append ["get"]) := by
  intro path scope
  have hdeclared : "get" ∈ macroAndModule.filterMap declaredName? := by decide
  have hfixed : "get" ∉ fixedNames := by decide
  have hresolve : scope.resolve? ["get", "Query"] =
      some ⟨.everything, ["aot_routes", "get", "Query"]⟩ := by decide
  refine ⟨hdeclared, hfixed, hresolve, fun hlast => ?_⟩
  -- By the theorem the path would lead to the own module, but it leads to the macro.
  have hown :=
    ((resolve?_of_declared_iff path macroAndModule "get" ["Query"] hdeclared hfixed).mpr hlast).1
  exact absurd (hresolve.symm.trans hown) (by decide)

end ModuleScope

end RouteRegistrar
