import RouteRegistrar.Proofs.Source.OwnType
import RouteRegistrar.Proofs.Source.SelfType

/-!
# Paths resolved in part and as a whole

The path of an import is made absolute as a whole. Of a path in a type only the beginning is made
absolute, a run of `super` or a single name, and the segments behind it are kept with all that they
carry. This module shows that both ways lead to the same names.

Arguments have a place in a path: the names up to the segment that carries them. Such a part of the
path has an absolute form of its own, and there the arguments are found in the result, qualified and
in the same order.
-/

namespace RouteRegistrar

open Grammar

/-! ## Paths of items as trees -/

/-- The path of an item as it is written in the entry target. -/
def ItemPath.tree (path : ItemPath) (libraryName : Option String) : Except Failure Tree :=
  (path.segmentTrees libraryName).map (Tree.pathOfSegments (path.anchor libraryName).1)

/-- The path of an item can be written if its names can, and is spelled as the item is. -/
theorem ItemPath.tree_eq_ok_iff {path : ItemPath} {libraryName : Option String} {tree : Tree} :
    path.tree libraryName = .ok tree ↔ AreWritable (path.spelling libraryName).names ∧
      tree = Tree.pathOfSegments (path.spelling libraryName).isRooted
        (((path.spelling libraryName).names.map (·, Tree.absent)).map Tree.namedSegment) := by
  rw [ItemPath.tree, List.map_map]
  exact map_segmentTrees_eq_ok_iff

theorem ItemPath.spelling_of_tree {path : ItemPath} {libraryName : Option String} {tree : Tree}
    (h : path.tree libraryName = .ok tree) : tree.spelling = path.spelling libraryName := by
  obtain ⟨-, rfl⟩ := tree_eq_ok_iff.mp h
  rw [Tree.spelling_pathOfSegments]
  simp [Function.comp_def]

theorem ItemPath.spelling_append (path : ItemPath) (rest : List String)
    (libraryName : Option String) : (path.append rest).spelling libraryName =
      ⟨(path.anchor libraryName).1, (path.spelling libraryName).names ++ rest⟩ := by
  rw [ItemPath.spelling, ItemPath.spelling, List.append_assoc]
  rfl

/-- A path goes on with names that can be written if it can be written itself. -/
theorem ItemPath.exists_tree_append_iff {path : ItemPath} {rest : List String}
    {libraryName : Option String} (hrest : AreWritable rest) :
    (∃ tree, (path.append rest).tree libraryName = .ok tree) ↔
      AreWritable (path.spelling libraryName).names := by
  simp only [tree_eq_ok_iff, exists_and_left, exists_eq, and_true, spelling_append]
  exact List.forall_mem_append.trans (and_iff_left hrest)

namespace ModuleScope

variable {scope : ModuleScope} {names more : List String}

/-! ## Parts of a path -/

/-- A part of a path that goes beyond what is resolved together goes on from there. -/
theorem absolute?_of_isPrefix (scope : ModuleScope)
    (h : more <+: names.drop (Qualifier.resolvedCount names)) :
    scope.absolute? (names.take (Qualifier.resolvedCount names) ++ more) =
      (scope.absolute? (names.take (Qualifier.resolvedCount names))).map (·.append more) := by
  obtain ⟨ups, tail, rfl, htail⟩ := exists_climbs names
  -- A run of `super` is resolved together, whatever its length; else one name is.
  cases ups with
  | succ ups =>
    rw [resolvedCount_climbs ups htail, List.drop_left' List.length_replicate] at h
    -- The part must not begin with one more `super`, which would be climbed as well.
    have hmore : more.head? ≠ some "super" := by
      intro hhead
      obtain ⟨rest, rfl⟩ := List.head?_eq_some_iff.mp hhead
      obtain ⟨behind, rfl⟩ := h
      exact htail rfl
    rw [resolvedCount_climbs ups htail, List.take_left' List.length_replicate,
      absolute?_supers, absolute?_climbs scope ups hmore]
    rfl
  | zero =>
    have hcount : Qualifier.resolvedCount tail = 1 := if_neg htail
    rw [List.replicate_zero, List.nil_append, hcount] at h ⊢
    cases tail with
    | nil => rw [List.prefix_nil.mp h]; rfl
    | cons first rest =>
      -- The part starts at the same name, so as much of it is resolved together.
      have hpart : Qualifier.resolvedCount (first :: more) = 1 :=
        if_neg (by simpa using htail)
      have habsolute := absolute?_eq_map_append scope (first :: more)
      rwa [hpart] at habsolute

/-- What a name stands for has a name, if this holds of what is imported. -/
theorem isNamed_meaning (himports : ∀ entry ∈ scope.imports, entry.2.IsNamed) (name : String) :
    (scope.meaning name).IsNamed :=
  meaning_cases himports (fun _ => List.append_ne_nil_of_right_ne_nil _ (List.cons_ne_nil _ _))
    fun _ => List.cons_ne_nil _ _

end ModuleScope

/-! ## Places of arguments -/

namespace Tree

variable {names : List String} {arguments : Tree}

/-- The argument lists of a path in order, each with the names up to its segment. `front` holds the
names in front of the path. -/
def argumentPlaces (front : List String) : List (String × Tree) → List (List String × Tree)
  | [] => []
  | (name, arguments) :: rest =>
    (if arguments.isMissing then [] else [(front ++ [name], arguments)]) ++
      argumentPlaces (front ++ [name]) rest

theorem argumentPlaces_append (front : List String) (header rest : List (String × Tree)) :
    argumentPlaces front (header ++ rest) =
      argumentPlaces front header ++ argumentPlaces (front ++ header.map (·.1)) rest := by
  induction header generalizing front with
  | nil => simp [argumentPlaces]
  | cons segment header ih =>
    rw [List.cons_append, argumentPlaces, argumentPlaces, ih, List.append_assoc]
    simp

/-- Arguments of the last segment stand behind all names. -/
theorem argumentPlaces_withArguments (front : List String) (h : names = [] → arguments = absent) :
    argumentPlaces front (withArguments names arguments) =
      if arguments.isMissing then [] else [(front ++ names, arguments)] := by
  -- Names without arguments give no place.
  have hplain : ∀ front before : List String,
      argumentPlaces front (before.map (·, absent)) = [] := by
    intro front before
    induction before generalizing front with
    | nil => rfl
    | cons name before ih => exact ih _
  rcases List.eq_nil_or_concat names with rfl | ⟨before, last, rfl⟩
  · -- There is no segment that could carry the arguments.
    rw [h rfl]
    rfl
  · rw [List.concat_eq_append, withArguments_concat, argumentPlaces_append, hplain, List.map_map]
    simp [argumentPlaces, Function.comp_def]

end Tree

namespace Qualifier

open RouteRegistrar.Tree ModuleScope

variable {qualifier : Qualifier} {first : String} {beginning : ItemPath}
  {header found : List (String × Tree)} {results : List Tree}

/-! ## Qualified arguments -/

theorem isMissing_of_qualify {tree result : Tree} (h : qualifier.qualify tree = .ok result) :
    result.isMissing = tree.isMissing := by
  -- Only the absent tree counts as missing, and nothing else is qualified to the absent tree.
  have hmissing : ∀ tree : Tree, tree.isMissing = true ↔ tree = .absent :=
    fun tree => ⟨eq_absent_of_isMissing, fun htree => htree ▸ rfl⟩
  rw [Bool.eq_iff_iff, hmissing, hmissing, eq_absent_iff_of_qualify h]

theorem map_fst_of_carries (h : List.Forall₂ qualifier.Carries header found) :
    found.map (·.1) = header.map (·.1) := by
  induction h with
  | nil => rfl
  | cons hfirst _ ih => rw [List.map_cons, List.map_cons, hfirst.1, ih]

/-- Where there are no arguments there are none in the result. -/
theorem eq_absent_of_carries {keywords : List String}
    (h : List.Forall₂ qualifier.Carries header found)
    (hheader : ∀ segment ∈ header, segment.1 ∈ keywords → segment.2 = .absent) :
    ∀ segment ∈ found, segment.1 ∈ keywords → segment.2 = .absent := by
  refine forall_mem_of_forall₂ h fun segment hsegment result hcarries hname => ?_
  rw [eq_absent_iff_of_qualify hcarries.2]
  exact hheader segment hsegment (hcarries.1 ▸ hname)

/-- The arguments behind two paths are found behind the same names, and in the same order. -/
theorem forall₂_argumentPlaces (h : List.Forall₂ qualifier.Carries header found)
    (front other : List String) :
    List.Forall₂ (fun old new => qualifier.qualify old.2 = .ok new.2 ∧
        ∃ more, more <+: header.map (·.1) ∧ old.1 = front ++ more ∧ new.1 = other ++ more)
      (argumentPlaces front header) (argumentPlaces other found) := by
  induction h generalizing front other with
  | nil => exact .nil
  | @cons segment result header found hfirst _ ih =>
    obtain ⟨_, arguments⟩ := segment
    obtain ⟨name, qualified⟩ := result
    obtain ⟨rfl, harguments⟩ := hfirst
    rw [argumentPlaces, argumentPlaces, isMissing_of_qualify harguments]
    refine List.rel_append ?_ ((ih (front ++ [name]) (other ++ [name])).imp ?_)
    · split
      case isTrue => exact .nil
      case isFalse =>
        exact .cons ⟨harguments, [name], List.prefix_append [name] _, rfl, rfl⟩ .nil
    · -- What stands behind the names of the rest stands behind one more name of the whole.
      rintro old new ⟨hnew, more, hmore, hold, hother⟩
      refine ⟨hnew, name :: more, List.cons_prefix_cons.mpr ⟨rfl, hmore⟩, ?_, ?_⟩
      · rw [hold, List.append_assoc, List.singleton_append]
      · rw [hother, List.append_assoc, List.singleton_append]

/-! ## Qualified paths -/

/-- A path of segments can be qualified below if the arguments can be. -/
theorem exists_results_iff (rooted : Bool) :
    (∃ results, List.Forall₂ (fun tree result => qualifier.qualify tree = .ok result)
      (pathOfSegments rooted (header.map namedSegment)).children results) ↔
        ∀ segment ∈ header, ∃ result, qualifier.qualify segment.2 = .ok result := by
  rw [exists_forall₂_iff, forall_mem_pathOfSegments
    (fun tree => ∃ result, qualifier.qualify tree = .ok result) ⟨_, rfl⟩ ⟨_, rfl⟩,
    List.forall_mem_map]
  refine forall₂_congr fun segment _ => ?_
  -- Both ways, the children of a segment are its name, a word that stays, and its arguments.
  constructor
  · rintro ⟨_, h⟩
    obtain ⟨_, hparts, rfl⟩ := (qualify_node_eq_ok_iff (by decide) (by decide)).mp h
    obtain _ | ⟨-, _ | ⟨harguments, _⟩⟩ := hparts
    exact ⟨_, harguments⟩
  · rintro ⟨result, h⟩
    exact ⟨_, (qualify_node_eq_ok_iff (by decide) (by decide)).mpr
      ⟨[.word segment.1, result], .cons rfl (.cons h .nil), rfl⟩⟩

/-! ## Beginnings -/

/-- A path whose first name is known has a beginning that is made absolute, and as a whole it goes
on from there. -/
theorem exists_beginning {names : List String} (hfirst : names.head? = some first)
    (hknows : qualifier.scope.knows first = true) (hself : first ≠ "Self") :
    ∃ beginning, qualifier.target? names = some beginning ∧
      qualifier.scope.absolute? (names.take (resolvedCount names)) = some beginning ∧
      qualifier.scope.absolute? names =
        some (beginning.append (names.drop (resolvedCount names))) := by
  obtain ⟨rest, rfl⟩ := List.head?_eq_some_iff.mp hfirst
  -- As an import, the whole path is resolvable: it starts at a known name other than `Self`.
  have hresolvable : (Import.mk "" (first :: rest)).isResolvable = true := by
    simp [Import.isResolvable, hself]
  obtain ⟨whole, hwhole⟩ := Option.isSome_iff_exists.mp
    ((isSome_absolute?_iff qualifier.scope ⟨"", first :: rest⟩).mpr hresolvable)
  have hmeaning : qualifier.meaning? (first :: rest) = some whole := by
    rw [meaning?, if_neg (by simpa using hself), resolve?_eq_some_iff]
    exact ⟨hknows, hwhole⟩
  -- What the whole path stands for ends in what is behind its beginning.
  rw [meaning?_eq_map_append, Option.map_eq_some_iff] at hmeaning
  obtain ⟨beginning, htarget, rfl⟩ := hmeaning
  refine ⟨beginning, htarget, ?_, hwhole⟩
  rw [target?, if_neg (by simpa using hself)] at htarget
  exact absolute?_of_resolve? htarget

/-- A beginning that has arguments has a name to put them behind. -/
theorem spelling_names_ne_nil_of_keptArguments {path : Tree}
    (himports : ∀ entry ∈ qualifier.scope.imports, entry.2.IsNamed)
    (hfound : segments path = found.map namedSegment)
    (hfirst : path.pathNames.head? = some first) (hname : first ∉ ["", "Self"])
    (hkeywords : ∀ segment ∈ found, segment.1 ∈ pathKeywords → segment.2 = .absent)
    (hbeginning : qualifier.scope.absolute? (path.pathNames.take (resolvedCount path.pathNames)) =
      some beginning)
    (hkept : keptArguments path ≠ .absent) :
    (beginning.spelling qualifier.libraryName).names ≠ [] := by
  have hsuper : ∀ segment ∈ found, segment.1 = "super" → segment.2 = .absent :=
    fun segment hsegment hname => hkeywords segment hsegment (by simp [hname, pathKeywords])
  -- The arguments that are kept come from a segment that is no keyword.
  obtain ⟨segment, hsegment, hpresent⟩ :=
    (holds_keptArguments_iff (· ≠ .absent) (not_not.mpr rfl) hfound hsuper).mp hkept
  have hkeyword : segment.1 ∉ pathKeywords :=
    fun hkeyword => hpresent (hkeywords segment (List.mem_of_mem_take hsegment) hkeyword)
  have hmem : segment.1 ∈ path.pathNames.take (resolvedCount path.pathNames) := by
    rw [pathNames_of_segments hfound, ← List.map_take, ← pathNames_of_segments hfound]
    exact List.mem_map_of_mem hsegment
  -- The segment is no `super`, so it is the only one of the beginning.
  rcases take_resolvedCount_cases path.pathNames with ⟨ups, hsupers⟩ | hnil | ⟨only, -, honly⟩
  · rw [hsupers] at hmem
    rw [List.eq_of_mem_replicate hmem] at hkeyword
    exact absurd (by decide) hkeyword
  · rw [hnil] at hmem
    cases hmem
  · obtain rfl : only = first := by
      have hhead : (path.pathNames.take (resolvedCount path.pathNames)).head? = some only := by
        rw [honly]
        rfl
      rw [List.head?_take, hfirst] at hhead
      split at hhead
      case isTrue => cases hhead
      case isFalse => exact (Option.some.inj hhead).symm
    rw [honly] at hmem hbeginning
    rw [List.mem_singleton.mp hmem] at hkeyword
    -- A single name that is no keyword stands for a declared item or an import, and both are named.
    have hfixed : only ∉ fixedNames := by
      simp_all [fixedNames, pathKeywords]
    rw [absolute?_of_not_fixed hfixed] at hbeginning
    exact Option.some.inj hbeginning ▸
      ItemPath.spelling_names_ne_nil (ItemPath.isNamed_append (isNamed_meaning himports only) _) _

/-- Once its arguments are qualified, a path is qualified if its beginning can be written. -/
theorem qualifyPath_results_eq_ok_iff {path : Tree}
    (hsuper : ∀ segment ∈ header, segment.1 = "super" → segment.2 = .absent)
    (htarget : qualifier.target? (header.map (·.1)) = some beginning)
    (hresults : List.Forall₂ (fun tree result => qualifier.qualify tree = .ok result)
      (pathOfSegments false (header.map namedSegment)).children results) :
    qualifier.qualifyPath (.node .path results) = .ok path ↔
      AreWritable (beginning.spelling qualifier.libraryName).names ∧
        path = pathOfSegments (beginning.anchor qualifier.libraryName).1
          ((withArguments (beginning.spelling qualifier.libraryName).names
            (keptArguments (.node .path results))).map namedSegment ++
              (segments (.node .path results)).drop
                (resolvedCount (Tree.node .path results).pathNames)) := by
  -- Qualifying the arguments changes neither the names nor the leading colons.
  obtain ⟨hspelling, -⟩ := exists_carried hsuper hresults
  refine qualifyPath_eq_ok_iff (congrArg Spelling.isRooted hspelling) ?_
  rwa [show (Tree.node .path results).pathNames = _ from congrArg Spelling.names hspelling]

/-! ## Places in the result -/

/-- Arguments of a path and the same arguments in its absolute form. They are qualified, and the
names up to them are those of what the part of the path up to them stands for. -/
structure Moves (qualifier : Qualifier) (old new : List String × Tree) : Prop where
  part : ∃ part, qualifier.scope.absolute? old.1 = some part ∧
    new.1 = (part.spelling qualifier.libraryName).names
  arguments : qualifier.qualify old.2 = .ok new.2

/-- All arguments move along when the beginning of a path is replaced. -/
theorem forall₂_moves {path : Tree}
    (hheader : List.Forall₂ qualifier.Carries header found)
    (hfound : segments path = found.map namedSegment)
    (hsuper : ∀ segment ∈ found, segment.1 = "super" → segment.2 = .absent)
    (hbeginning : qualifier.scope.absolute? (path.pathNames.take (resolvedCount path.pathNames)) =
      some beginning)
    (hnamed : (beginning.spelling qualifier.libraryName).names = [] →
      keptArguments path = .absent) :
    List.Forall₂ qualifier.Moves (argumentPlaces [] header)
      (argumentPlaces [] (withArguments (beginning.spelling qualifier.libraryName).names
        (keptArguments path) ++ found.drop (resolvedCount path.pathNames))) := by
  set count := resolvedCount path.pathNames
  -- Header, `found` and `path` have the same names, so one count splits all three.
  have hnames : path.pathNames = header.map (·.1) :=
    (pathNames_of_segments hfound).trans (map_fst_of_carries hheader)
  conv in argumentPlaces [] header => rw [← List.take_append_drop count header]
  rw [argumentPlaces_append, argumentPlaces_append, map_fst_withArguments]
  refine List.rel_append ?_ ?_
  · -- In the beginning only the last segment has arguments, and it gets a new place.
    have hfront := forall₂_argumentPlaces (List.forall₂_take count hheader) [] []
    rw [take_resolvedCount_eq hfound hsuper] at hfront
    rw [argumentPlaces_withArguments _ hnamed]
    rw [argumentPlaces_withArguments _ (keptArguments_of_nil hfound)] at hfront
    by_cases hmissing : (keptArguments path).isMissing = true
    · -- Nothing is kept: there is no place on either side.
      rw [if_pos hmissing] at hfront ⊢
      rw [List.forall₂_nil_right_iff.mp hfront]
      exact .nil
    · rw [if_neg hmissing] at hfront ⊢
      -- The one place is behind all names of the beginning, on the left as on the right.
      obtain ⟨⟨place, arguments⟩, _, ⟨harguments, _, -, hplace, rfl⟩, hnil, hfirst⟩ :=
        List.forall₂_cons_right_iff.mp hfront
      obtain rfl : place = path.pathNames.take count := hplace
      rw [hfirst, List.forall₂_nil_right_iff.mp hnil]
      exact .cons ⟨⟨beginning, hbeginning, rfl⟩, harguments⟩ .nil
  · -- Behind it the segments stay, and so do the names between them and the beginning.
    refine (forall₂_argumentPlaces (List.forall₂_drop count hheader) _ _).imp ?_
    rintro old new ⟨harguments, more, hmore, hold, hnew⟩
    rw [List.map_drop, ← hnames] at hmore
    rw [List.nil_append, List.map_take, ← hnames] at hold
    refine ⟨⟨beginning.append more, ?_, ?_⟩, harguments⟩
    · -- The part goes on from the beginning with the names in between.
      rw [hold, absolute?_of_isPrefix qualifier.scope hmore, hbeginning]
      rfl
    · -- These names stand behind those of the beginning in the result.
      rw [hnew, ItemPath.spelling_append, List.nil_append]

/-! ## Qualified types -/

/-- **Types and imports resolve alike**: a path in a type that starts at a keyword or at a name of
the module is qualified to the path of the item that the whole path stands for, as for an import.
This fails only where that path cannot be written or an argument cannot be qualified. All arguments
are in the result, qualified and in their order, each behind the same part of the path. -/
theorem qualify_wholePath (qualifier : Qualifier) (header : List (String × Tree)) (first : String)
    (himports : ∀ entry ∈ qualifier.scope.imports, entry.2.IsNamed)
    (hfirst : (header.map (·.1)).head? = some first)
    (hknows : qualifier.scope.knows first = true) (hself : first ≠ "Self")
    (hkeywords : ∀ segment ∈ header, segment.1 ∈ pathKeywords → segment.2 = .absent)
    (hnames : AreWritable (header.map (·.1))) :
    ∃ target, qualifier.scope.absolute? (header.map (·.1)) = some target ∧
      ((∃ result, qualifier.qualify (headerType false header) = .ok result) ↔
        (∃ written, target.tree qualifier.libraryName = .ok written) ∧
          ∀ segment ∈ header, ∃ arguments, qualifier.qualify segment.2 = .ok arguments) ∧
      ∀ result, qualifier.qualify (headerType false header) = .ok result →
        ∃ written qualified, target.tree qualifier.libraryName = .ok written ∧
          result = headerType written.spelling.isRooted qualified ∧
          qualified.map (·.1) = written.pathNames ∧
          List.Forall₂ qualifier.Moves (argumentPlaces [] header)
            (argumentPlaces [] qualified) := by
  -- What is replaced is the beginning; `hwhole` says that the whole goes on from it.
  obtain ⟨beginning, htarget, hbeginning, hwhole⟩ := exists_beginning hfirst hknows hself
  have hsuper : ∀ segment ∈ header, segment.1 = "super" → segment.2 = .absent :=
    fun segment hsegment hname => hkeywords segment hsegment (by simp [hname, pathKeywords])
  have hrest : AreWritable ((header.map (·.1)).drop (resolvedCount (header.map (·.1)))) :=
    fun name hname => hnames name (List.mem_of_mem_drop hname)
  -- The empty name is that of a missing segment, which no writable path has.
  have hname : first ∉ ["", "Self"] := by
    intro hname
    obtain rfl : first = "" := by simpa [hself] using hname
    cases hnames "" (List.mem_of_mem_head? hfirst)
  refine ⟨_, hwhole, ?_, ?_⟩
  · -- The names behind the beginning are written in the type, so only the beginning can fail.
    rw [ItemPath.exists_tree_append_iff hrest, ← exists_results_iff false]
    constructor
    · rintro ⟨result, hresult⟩
      obtain ⟨results, path, hresults, hqualified, -⟩ := qualify_typePath_eq_ok_iff.mp hresult
      obtain ⟨hwritable, -⟩ :=
        (qualifyPath_results_eq_ok_iff hsuper htarget hresults).mp hqualified
      exact ⟨hwritable, results, hresults⟩
    · rintro ⟨hwritable, results, hresults⟩
      have hqualified :=
        (qualifyPath_results_eq_ok_iff hsuper htarget hresults).mpr ⟨hwritable, rfl⟩
      exact ⟨_, qualify_typePath_eq_ok_iff.mpr ⟨results, _, hresults, hqualified, rfl⟩⟩
  · -- A result comes from a path whose arguments are qualified and whose beginning is written.
    intro result hresult
    obtain ⟨results, path, hresults, hqualified, rfl⟩ := qualify_typePath_eq_ok_iff.mp hresult
    obtain ⟨hwritable, rfl⟩ := (qualifyPath_results_eq_ok_iff hsuper htarget hresults).mp hqualified
    obtain ⟨hspelling, found, hfound, hcarries, hfoundSuper⟩ := exists_carried hsuper hresults
    obtain ⟨written, hwritten⟩ := (ItemPath.exists_tree_append_iff hrest).mpr hwritable
    have hwrittenSpelling := ItemPath.spelling_of_tree hwritten
    rw [ItemPath.spelling_append] at hwrittenSpelling
    -- The places are counted in the path with its arguments qualified, which has the old names.
    have hpathNames : (Tree.node .path results).pathNames = header.map (·.1) :=
      congrArg Spelling.names hspelling
    refine ⟨written, withArguments (beginning.spelling qualifier.libraryName).names
      (keptArguments (.node .path results)) ++
        found.drop (resolvedCount (Tree.node .path results).pathNames), hwritten, ?_, ?_, ?_⟩
    · rw [hwrittenSpelling, headerType, List.map_append, hfound, List.map_drop]
    · rw [List.map_append, map_fst_withArguments, List.map_drop, map_fst_of_carries hcarries,
        hpathNames]
      exact (congrArg Spelling.names hwrittenSpelling).symm
    · rw [← hpathNames] at hbeginning hfirst
      refine forall₂_moves hcarries hfound hfoundSuper hbeginning fun hunnamed => ?_
      -- A beginning without names has no segment that could keep arguments.
      by_contra hkept
      exact spelling_names_ne_nil_of_keptArguments himports hfound hfirst hname
        (eq_absent_of_carries hcarries hkeywords) hbeginning hkept hunnamed

/-- The arguments `<Self>`. -/
def ownArguments : Tree :=
  .node .angleArguments [.absent, .op "<", .node .punctuated [ownType], .op ">"]

/-- The arguments of an imported name stay with the last name of what is imported. -/
theorem qualify_wholePath_of_import :
    let scope : ModuleScope :=
      ⟨⟨.target .library, ["api"]⟩, [("Kept", ⟨.target .library, ["shared", "Store"]⟩)], []⟩
    let qualifier : Qualifier := ⟨scope, scope.path.append ["Api"], some "site"⟩
    let header := [("Kept", ownArguments), ("Item", ownArguments)]
    ∃ written qualified,
      ItemPath.tree ⟨.target .library, ["shared", "Store", "Item"]⟩ "site" = .ok written ∧
      qualifier.qualify (headerType false header) = .ok (headerType true qualified) ∧
      qualified.map (·.1) = ["site", "shared", "Store", "Item"] ∧
      List.Forall₂ qualifier.Moves [(["Kept"], ownArguments), (["Kept", "Item"], ownArguments)]
        (argumentPlaces [] qualified) := by
  intro scope qualifier header
  have himports : ∀ entry ∈ qualifier.scope.imports, entry.2.IsNamed := by
    simp [qualifier, scope, ItemPath.IsNamed]
  have hkeywords : ∀ segment ∈ header, segment.1 ∈ pathKeywords → segment.2 = .absent := by
    simp [header, pathKeywords]
  have harguments : ∀ segment ∈ header, ∃ result, qualifier.qualify segment.2 = .ok result :=
    List.forall_mem_cons.mpr ⟨⟨_, rfl⟩, List.forall_mem_singleton.mpr ⟨_, rfl⟩⟩
  obtain ⟨target, htarget, hexists, hall⟩ := qualify_wholePath qualifier header "Kept"
    himports rfl rfl (by decide) hkeywords (by decide)
  -- The target and the written path are computed, so only the header of the result is open.
  cases htarget
  obtain ⟨result, hresult⟩ := hexists.mpr ⟨⟨_, rfl⟩, harguments⟩
  obtain ⟨written, qualified, hwritten, rfl, hnames, hmoves⟩ := hall result hresult
  cases hwritten
  exact ⟨_, qualified, rfl, hresult, hnames, hmoves⟩

end Qualifier

end RouteRegistrar
