import Mathlib.Data.List.TakeWhile
import RouteRegistrar.Proofs.Source.Imports
import RouteRegistrar.Proofs.Source.TypePaths

/-!
# The paths of qualified types

This module says how the paths of a type are spelled once the type is qualified: a path that is a
type is spelled as what it stands for, and the path of a trait, in a bound or behind `as`, is
spelled as before.

Only the beginning of a path is resolved, and the rest is put behind it. That is the same as to
resolve the path as a whole.
-/

namespace RouteRegistrar

open Grammar

/-! ## Beginnings of paths -/

/-- The module that further `super` lead to, one name up for each. The root of a target encloses
itself. -/
def ItemPath.ancestor (path : ItemPath) (ups : Nat) : ItemPath :=
  { path with segments := path.segments.take (path.segments.length - ups) }

theorem ItemPath.ancestor_zero (path : ItemPath) : path.ancestor 0 = path := by
  simp [ancestor]

theorem ItemPath.ancestor_parent (path : ItemPath) (ups : Nat) :
    path.parent.ancestor ups = path.ancestor (ups + 1) := by
  simp only [ancestor, parent, List.dropLast_eq_take, List.take_take, List.length_take]
  congr 2
  omega

/-- A full path that has a name, be it `crate`. -/
def ItemPath.IsNamed (path : ItemPath) : Prop := path.root = .everything → path.segments ≠ []

theorem ItemPath.isNamed_append {path : ItemPath} (h : path.IsNamed) (rest : List String) :
    (path.append rest).IsNamed :=
  fun hroot hnil => h hroot (List.append_eq_nil_iff.mp hnil).1

theorem ItemPath.isNamed_of_root {path : ItemPath} (h : path.root ≠ .everything) : path.IsNamed :=
  fun hroot => absurd hroot h

theorem ItemPath.spelling_names_ne_nil {found : ItemPath} (h : found.IsNamed)
    (libraryName : Option String) : (found.spelling libraryName).names ≠ [] := by
  obtain ⟨root, segments⟩ := found
  intro hnil
  have hsegments := List.append_eq_nil_iff.mp hnil
  cases root with
  | everything => exact h rfl hsegments.2
  | target target => cases target <;> cases libraryName <;> cases hsegments.1

namespace ModuleScope

variable {scope : ModuleScope}

/-- A path begins with a run of `super`, which may be empty. -/
theorem exists_climbs (names : List String) : ∃ ups tail,
    names = List.replicate ups "super" ++ tail ∧ tail.head? ≠ some "super" := by
  induction names with
  | nil => exact ⟨0, [], rfl, nofun⟩
  | cons first rest ih =>
    by_cases hfirst : first = "super"
    · obtain ⟨ups, tail, rfl, htail⟩ := ih
      exact ⟨ups + 1, tail, by rw [hfirst, List.replicate_succ, List.cons_append], htail⟩
    · exact ⟨0, first :: rest, rfl, by simpa using hfirst⟩

/-- All leading `super` are climbed. -/
theorem ascend_climbs (path : ItemPath) (ups : Nat) {tail : List String}
    (htail : tail.head? ≠ some "super") :
    ascend path (List.replicate ups "super" ++ tail) = (path.ancestor ups, tail) := by
  induction ups generalizing path with
  | zero =>
    rw [List.replicate_zero, List.nil_append, ItemPath.ancestor_zero]
    cases tail with
    | nil => rfl
    | cons first rest => exact if_neg (by simpa using htail)
  | succ ups ih =>
    rw [List.replicate_succ, List.cons_append, ascend, if_pos rfl, ih, ItemPath.ancestor_parent]

theorem absolute?_own (scope : ModuleScope) (rest : List String) :
    scope.absolute? ("self" :: rest) = some (scope.path.append rest) := rfl

theorem absolute?_climbs (scope : ModuleScope) (ups : Nat) {tail : List String}
    (htail : tail.head? ≠ some "super") :
    scope.absolute? (List.replicate (ups + 1) "super" ++ tail) =
      some ((scope.path.ancestor (ups + 1)).append tail) := by
  rw [List.replicate_succ, List.cons_append, ← ItemPath.ancestor_parent]
  simp [absolute?, ascend_climbs scope.path.parent ups htail]

/-- A run of `super` leads to an enclosing module. -/
theorem absolute?_supers (scope : ModuleScope) (ups : Nat) :
    scope.absolute? (List.replicate (ups + 1) "super") = some (scope.path.ancestor (ups + 1)) := by
  have hnone : ([] : List String).head? ≠ some "super" := nofun
  simpa [ItemPath.append] using absolute?_climbs scope ups hnone

theorem resolvedCount_climbs (ups : Nat) {tail : List String} (htail : tail.head? ≠ some "super") :
    Qualifier.resolvedCount (List.replicate (ups + 1) "super" ++ tail) = ups + 1 := by
  have hcount : (List.takeWhile (· = "super") (List.replicate (ups + 1) "super" ++ tail)).length =
      ups + 1 := by
    rw [List.takeWhile_append_of_pos (by simp), List.length_append, List.length_replicate]
    cases tail with
    | nil => rfl
    | cons first rest => simp [List.takeWhile_cons_of_neg, by simpa using htail]
  rw [Qualifier.resolvedCount, if_pos (by simp [List.replicate_succ]), hcount]

/-- What is resolved together is a run of `super` or a single name. -/
theorem take_resolvedCount_cases (names : List String) :
    (∃ ups, names.take (Qualifier.resolvedCount names) = List.replicate (ups + 1) "super") ∨
      names.take (Qualifier.resolvedCount names) = [] ∨
      ∃ first, first ≠ "super" ∧ names.take (Qualifier.resolvedCount names) = [first] := by
  -- The names are some `super` and a rest that starts at something else.
  obtain ⟨ups, tail, rfl, htail⟩ := exists_climbs names
  cases ups with
  | succ ups =>
    rw [resolvedCount_climbs ups htail, List.take_left' List.length_replicate]
    exact .inl ⟨ups, rfl⟩
  | zero =>
    have hcount : Qualifier.resolvedCount tail = 1 := if_neg htail
    rw [List.replicate_zero, List.nil_append, hcount]
    cases tail with
    | nil => exact .inr (.inl rfl)
    | cons first rest => exact .inr (.inr ⟨first, by simpa using htail, rfl⟩)

theorem eq_super_of_mem_dropLast {names : List String} {name : String}
    (h : name ∈ (names.take (Qualifier.resolvedCount names)).dropLast) : name = "super" := by
  rcases take_resolvedCount_cases names with ⟨ups, hsupers⟩ | hnil | ⟨first, -, hfirst⟩
  · rw [hsupers] at h
    exact List.eq_of_mem_replicate ((List.dropLast_sublist _).subset h)
  · rw [hnil] at h
    cases h
  · rw [hfirst] at h
    cases h

/-- A path is made absolute by its beginning, and the rest is put behind it. -/
theorem absolute?_eq_map_append (scope : ModuleScope) (names : List String) :
    scope.absolute? names = (scope.absolute? (names.take (Qualifier.resolvedCount names))).map
      (·.append (names.drop (Qualifier.resolvedCount names))) := by
  obtain ⟨ups, tail, rfl, htail⟩ := exists_climbs names
  cases ups with
  | succ ups =>
    rw [resolvedCount_climbs ups htail, absolute?_climbs scope ups htail,
      List.take_left' List.length_replicate, List.drop_left' List.length_replicate,
      absolute?_supers]
    rfl
  | zero =>
    cases tail with
    | nil => rfl
    | cons first rest =>
      have hcount : Qualifier.resolvedCount (first :: rest) = 1 := if_neg htail
      rw [List.replicate_zero, List.nil_append, hcount, List.take_succ_cons, List.take_zero,
        List.drop_succ_cons, List.drop_zero]
      -- Only the first name is looked at, and the rest is put behind what it stands for.
      by_cases hfixed : first ∈ fixedNames
      · simp only [fixedNames, List.mem_cons, List.not_mem_nil, or_false] at hfixed
        rcases hfixed with rfl | rfl | rfl | rfl | rfl <;> simp_all [absolute?, ItemPath.append]
      · simp [absolute?_of_not_fixed hfixed, ItemPath.append]

/-- A resolved path starts at a name that the module knows, and is made absolute. -/
theorem resolve?_eq_some_iff {first : String} {rest : List String} {found : ItemPath} :
    scope.resolve? (first :: rest) = some found ↔
      scope.knows first = true ∧ scope.absolute? (first :: rest) = some found := by
  rw [resolve?]
  cases scope.knows first <;> simp

theorem absolute?_of_resolve? {names : List String} {found : ItemPath}
    (h : scope.resolve? names = some found) : scope.absolute? names = some found := by
  cases names with
  | nil => cases h
  | cons first rest => exact (resolve?_eq_some_iff.mp h).2

/-- What a path in a signature stands for is resolved by its beginning. -/
theorem resolve?_eq_map_append (scope : ModuleScope) (names : List String) :
    scope.resolve? names = (scope.resolve? (names.take (Qualifier.resolvedCount names))).map
      (·.append (names.drop (Qualifier.resolvedCount names))) := by
  cases names with
  | nil => rfl
  | cons first rest =>
    -- What is resolved together contains the first name, which decides whether a path is known.
    obtain ⟨count, hcount⟩ : ∃ count, Qualifier.resolvedCount (first :: rest) = count + 1 := by
      unfold Qualifier.resolvedCount
      split
      case isTrue hsuper =>
        rw [List.takeWhile_cons_of_pos (by simpa using hsuper)]
        exact ⟨_, rfl⟩
      case isFalse => exact ⟨0, rfl⟩
    have habsolute := absolute?_eq_map_append scope (first :: rest)
    rw [hcount, List.take_succ_cons, List.drop_succ_cons] at habsolute ⊢
    rw [resolve?, resolve?]
    split
    case isTrue => exact habsolute
    case isFalse => rfl

end ModuleScope
namespace Qualifier

variable {qualifier : Qualifier} {path result : Tree}

/-- The arguments of the last segment that is resolved. -/
def keptArguments (path : Tree) : Tree :=
  (((segments path).take (resolvedCount path.pathNames)).getLast?.map Tree.segmentArguments).getD
    .absent

/-- A path that starts at the root of all names is not changed. -/
theorem qualifyPath_of_rooted (h : path.spelling.isRooted = true) :
    qualifier.qualifyPath path = .ok path := by
  unfold qualifyPath
  simp only
  split
  case h_1 hhead _ => simp [Tree.spelling, hhead, Tree.isAbsent] at h
  case h_2 => rfl

/-- A path whose beginning is not known is not changed. -/
theorem qualifyPath_of_unknown (h : qualifier.target? path.pathNames = none) :
    qualifier.qualifyPath path = .ok path := by
  unfold qualifyPath
  simp only
  split
  case h_1 hfound => cases h.symm.trans hfound
  case h_2 => rfl

/-- The beginning of any other path is replaced. -/
theorem qualifyPath_of_known {found : ItemPath} (hrooted : path.spelling.isRooted = false)
    (hfound : qualifier.target? path.pathNames = some found) :
    qualifier.qualifyPath path = (found.segmentTrees qualifier.libraryName).map fun beginning =>
      Tree.pathOfSegments (found.anchor qualifier.libraryName).1
        (Tree.setArguments (keptArguments path) beginning ++
          (segments path).drop (resolvedCount path.pathNames)) := by
  -- Without two colons in front the first child is missing, and only then is the path replaced.
  obtain ⟨children, hhead⟩ : ∃ children, path.children.head? = some (.node .absent children) := by
    rw [Tree.spelling, Bool.not_eq_false'] at hrooted
    cases hfirst : path.children.head? with
    | none => rw [hfirst] at hrooted; cases hrooted
    | some first =>
      rw [hfirst, Option.any_some] at hrooted
      unfold Tree.isAbsent at hrooted
      split at hrooted
      case h_1 children => exact ⟨children, rfl⟩
      case h_2 => cases hrooted
  unfold qualifyPath
  simp only [hhead, hfound, List.splitAt_eq]
  cases found.segmentTrees qualifier.libraryName <;> rfl

/-! ## Qualified paths -/

/-- What a path stands for as a whole, if its beginning is known. -/
def meaning? (qualifier : Qualifier) (names : List String) : Option ItemPath :=
  if names.head? = some "Self" then some (qualifier.selfType.append names.tail)
  else qualifier.scope.resolve? names

/-- How a path is spelled in a qualified type: a type as what it stands for, a trait as before. -/
def respell (qualifier : Qualifier) : PathUse → Spelling → Spelling
  | .type, spelled =>
    if spelled.isRooted then spelled
    else ((qualifier.meaning? spelled.names).map (·.spelling qualifier.libraryName)).getD spelled
  | _, spelled => spelled

theorem meaning?_eq_map_append (qualifier : Qualifier) (names : List String) :
    qualifier.meaning? names =
      (qualifier.target? names).map (·.append (names.drop (resolvedCount names))) := by
  unfold meaning? target?
  split
  case isTrue hself =>
    have hcount : resolvedCount names = 1 := if_neg (by rw [hself]; decide)
    rw [hcount, List.drop_one, Option.map_some]
  case isFalse => exact ModuleScope.resolve?_eq_map_append qualifier.scope names

/-- Every resolved beginning has a name, so there is a place for arguments. -/
def NamesBeginnings (qualifier : Qualifier) : Prop :=
  ∀ names found, qualifier.target? names = some found →
    (found.spelling qualifier.libraryName).names ≠ []

/-- A path whose beginning is known can be qualified if the names of the beginning can be written.
These become its first segments, and the last of them carries the arguments of the beginning. -/
theorem qualifyPath_eq_ok_iff {target : ItemPath} (hrooted : path.spelling.isRooted = false)
    (htarget : qualifier.target? path.pathNames = some target) :
    qualifier.qualifyPath path = .ok result ↔
      (∀ name ∈ (target.spelling qualifier.libraryName).names, ItemPath.isWritable name = true) ∧
        result = Tree.pathOfSegments (target.anchor qualifier.libraryName).1
          ((Tree.withArguments (target.spelling qualifier.libraryName).names
            (keptArguments path)).map Tree.namedSegment ++
              (segments path).drop (resolvedCount path.pathNames)) := by
  rw [qualifyPath_of_known hrooted htarget, ← Tree.setArguments_names]
  exact ItemPath.map_segmentTrees_eq_ok_iff

/-- Only the last segment of a resolved beginning has arguments, and these are kept. -/
theorem take_resolvedCount_eq {found : List (String × Tree)}
    (hfound : segments path = found.map Tree.namedSegment)
    (hsuper : ∀ segment ∈ found, segment.1 = "super" → segment.2 = Tree.absent) :
    found.take (resolvedCount path.pathNames) =
      Tree.withArguments (path.pathNames.take (resolvedCount path.pathNames))
        (keptArguments path) := by
  -- The segments before the last one are all `super`, and these have no arguments.
  have hnames := Tree.pathNames_of_segments hfound
  -- What is kept are the arguments of the last segment of the beginning.
  have hkept : keptArguments path =
      ((found.take (resolvedCount path.pathNames)).getLast?.map (·.2)).getD .absent := by
    rw [keptArguments, hfound, ← List.map_take, List.getLast?_map, Option.map_map]
    rfl
  rw [hkept]
  conv_rhs => rw [hnames, ← List.map_take, ← hnames]
  refine Tree.eq_withArguments fun segment hsegment => ?_
  have hname : segment.1 ∈ (path.pathNames.take (resolvedCount path.pathNames)).dropLast := by
    rw [hnames, ← List.map_take, ← List.map_dropLast]
    exact List.mem_map_of_mem (hnames ▸ hsegment)
  exact hsuper segment (List.mem_of_mem_take ((List.dropLast_sublist _).subset hsegment))
    (ModuleScope.eq_super_of_mem_dropLast hname)

/-- Arguments are kept only if there is a segment for them. -/
theorem keptArguments_of_nil {found : List (String × Tree)}
    (hfound : segments path = found.map Tree.namedSegment)
    (h : path.pathNames.take (resolvedCount path.pathNames) = []) :
    keptArguments path = .absent := by
  rw [Tree.pathNames_of_segments hfound, ← List.map_take, List.map_eq_nil_iff,
    ← Tree.pathNames_of_segments hfound] at h
  rw [keptArguments, hfound, ← List.map_take, h]
  rfl

/-- No arguments are lost: those of the last resolved segment are kept, and there are none in front
of it. -/
theorem holds_keptArguments_iff {found : List (String × Tree)} (holds : Tree → Prop)
    (hnone : ¬holds .absent) (hfound : segments path = found.map Tree.namedSegment)
    (hsuper : ∀ segment ∈ found, segment.1 = "super" → segment.2 = Tree.absent) :
    holds (keptArguments path) ↔
      ∃ segment ∈ found.take (resolvedCount path.pathNames), holds segment.2 := by
  rw [take_resolvedCount_eq hfound hsuper, Tree.exists_mem_withArguments holds hnone]
  refine (and_iff_right_of_imp fun hkept hnil => hnone ?_).symm
  rwa [keptArguments_of_nil hfound hnil] at hkept

/-- A path whose beginning is known becomes the names of what the beginning stands for, and the
names behind it. It keeps its arguments. -/
theorem exists_qualified_segments {found : List (String × Tree)} {target : ItemPath}
    (hfound : segments path = found.map Tree.namedSegment)
    (hsuper : ∀ segment ∈ found, segment.1 = "super" → segment.2 = Tree.absent)
    (hrooted : path.spelling.isRooted = false)
    (htarget : qualifier.target? path.pathNames = some target)
    (h : qualifier.qualifyPath path = .ok result) :
    ∃ qualified : List (String × Tree),
      result = Tree.pathOfSegments (target.anchor qualifier.libraryName).1
        (qualified.map Tree.namedSegment) ∧
      qualified.map (·.1) = (target.spelling qualifier.libraryName).names ++
        path.pathNames.drop (resolvedCount path.pathNames) ∧
      ((target.spelling qualifier.libraryName).names ≠ [] → ∀ holds : Tree → Prop,
        ¬holds .absent → ((∃ segment ∈ qualified, holds segment.2) ↔
          ∃ segment ∈ found, holds segment.2)) := by
  obtain ⟨-, rfl⟩ := (qualifyPath_eq_ok_iff hrooted htarget).mp h
  refine ⟨Tree.withArguments (target.spelling qualifier.libraryName).names (keptArguments path) ++
    found.drop (resolvedCount path.pathNames), ?_, ?_, ?_⟩
  · rw [hfound, List.map_append, List.map_drop]
  · rw [List.map_append, Tree.map_fst_withArguments, List.map_drop,
      ← Tree.pathNames_of_segments hfound]
  · intro hnamed holds hnone
    -- Arguments of the beginning are kept in its new last segment, the others where they are.
    have hresolved := holds_keptArguments_iff holds hnone hfound hsuper
    conv_rhs => rw [← List.take_append_drop (resolvedCount path.pathNames) found]
    simp only [List.mem_append, or_and_right, exists_or, ← hresolved,
      Tree.exists_mem_withArguments holds hnone]
    simp [hnamed]

/-- A qualified path is spelled as what it stands for, and keeps what is spelled in its
arguments. -/
theorem spelling_qualifyPath {children : List Tree}
    (hchildren : children.all Tree.isPathPart = true)
    (h : qualifier.qualifyPath (.node .path children) = .ok result) :
    result.isKind .path = true ∧
      result.spelling = qualifier.respell .type (Tree.node .path children).spelling ∧
      (qualifier.NamesBeginnings → ∀ use spelled, spelled ∈ result.spellings use ↔
        spelled ∈ (Tree.node .path children).spellings use) := by
  obtain ⟨found, hfound, hsuper⟩ := Tree.exists_segments hchildren
  have hnames := Tree.pathNames_of_segments hfound
  have hspellings : ∀ use spelled, spelled ∈ (Tree.node .path children).spellings use ↔
      ∃ segment ∈ found, spelled ∈ segment.2.spellings use :=
    fun use spelled => Tree.mem_spellings_path hchildren hfound
  have hkind : (Tree.node .path children).isKind .path = true := rfl
  -- From here on only the segments of the path matter, and not how it is built.
  generalize Tree.node .path children = path at h hfound hnames hspellings hkind ⊢
  by_cases hrooted : path.spelling.isRooted = true
  · rw [qualifyPath_of_rooted hrooted] at h
    cases h
    exact ⟨hkind, by rw [respell, if_pos hrooted], fun _ _ _ => Iff.rfl⟩
  rw [respell, if_neg hrooted, show path.spelling.names = path.pathNames from rfl,
    meaning?_eq_map_append]
  rw [Bool.not_eq_true] at hrooted
  cases htarget : qualifier.target? path.pathNames with
  | none =>
    rw [qualifyPath_of_unknown htarget] at h
    cases h
    exact ⟨hkind, rfl, fun _ _ _ => Iff.rfl⟩
  | some target =>
    obtain ⟨qualified, rfl, hqualified, hkept⟩ :=
      exists_qualified_segments hfound hsuper hrooted htarget h
    refine ⟨rfl, ?_, fun hnamed use spelled => ?_⟩
    · rw [Tree.spelling_pathOfSegments, hqualified]
      simp [ItemPath.spelling, ItemPath.append, ItemPath.anchor]
    · have hnone : spelled ∉ Tree.absent.spellings use := by simp [Tree.spellings_absent]
      rw [Tree.mem_spellings_pathOfSegments, hspellings]
      exact hkept (hnamed _ _ htarget) (fun tree => spelled ∈ tree.spellings use) hnone

/-! ## Qualified types -/

/-- The type of a receiver that gives none is spelled out, the path of a type is qualified, and any
other node is kept. -/
theorem step_eq_ok_cases {kind : Kind} {children : List Tree}
    (h : qualifier.step kind children = .ok result) :
    (∃ own reference name mutability self missing type path,
      kind = .receiver ∧
        children = [own, reference, name, mutability, self, .node .absent missing, type] ∧
        qualifier.qualifyPath (plainPath (.word "Self")) = .ok path ∧
        result = .node .receiver [own, reference, name, mutability, self, .op ":",
          receiverType (.node .typePath [path]) reference name mutability]) ∨
    (∃ segments path, kind = .typePath ∧ children = [.node .path segments] ∧
      qualifier.qualifyPath (.node .path segments) = .ok path ∧
      result = .node .typePath [path]) ∨
    ((Tree.node kind children).usedPath? .type = none ∧ result = .node kind children) := by
  unfold step at h
  split at h
  case h_1 own reference name mutability self missing type =>
    obtain ⟨path, hpath, h⟩ := bind_eq_ok.mp h
    exact .inl ⟨own, reference, name, mutability, self, missing, type, path, rfl, rfl, hpath,
      (Except.ok.inj h).symm⟩
  case h_2 segments =>
    obtain ⟨path, hpath, h⟩ := bind_eq_ok.mp h
    exact .inr (.inl ⟨segments, path, rfl, rfl, hpath, (Except.ok.inj h).symm⟩)
  case h_3 hreceiver hpath =>
    -- Neither of the two patterns fits, so this is no place where a type is named.
    refine .inr (.inr ⟨?_, (Except.ok.inj h).symm⟩)
    unfold Tree.usedPath?
    split
    case h_1 path _ heq =>
      cases heq
      refine if_neg fun hkind => ?_
      obtain ⟨segments, rfl⟩ := Tree.exists_of_isKind hkind
      exact hpath segments rfl rfl
    case h_2 colon _ _ heq =>
      cases heq
      refine if_neg fun habsent => ?_
      rw [Tree.isAbsent_eq_isKind] at habsent
      obtain ⟨missing, rfl⟩ := Tree.exists_of_isKind habsent
      exact hreceiver _ _ _ _ _ _ _ rfl rfl
    case h_3 huse _ => cases huse
    case h_4 huse _ => cases huse
    case h_5 => rfl

theorem step_kind? {kind : Kind} {children : List Tree}
    (h : qualifier.step kind children = .ok result) : result.kind? = some kind := by
  rcases step_eq_ok_cases h with ⟨_, _, _, _, _, _, _, _, rfl, -, -, rfl⟩ |
    ⟨_, _, rfl, -, -, rfl⟩ | ⟨-, rfl⟩
  all_goals rfl

/-- Apart from types and receivers, only what is below a node is qualified. -/
theorem qualify_node_eq_ok_iff {kind : Kind} {children : List Tree} (htype : kind ≠ .typePath)
    (hreceiver : kind ≠ .receiver) : qualifier.qualify (.node kind children) = .ok result ↔
      ∃ results, List.Forall₂ (fun tree result => qualifier.qualify tree = .ok result)
        children results ∧ result = .node kind results := by
  rw [qualify, Tree.rewrite_node_eq_ok_iff]
  refine exists_congr fun results => and_congr_right fun _ => ?_
  -- A step changes the paths of types and receivers, and this is neither.
  constructor
  · intro h
    rcases step_eq_ok_cases h with ⟨_, _, _, _, _, _, _, _, hkind, -⟩ | ⟨_, _, hkind, -⟩ | ⟨-, rfl⟩
    · exact absurd hkind hreceiver
    · exact absurd hkind htype
    · rfl
  · rintro rfl
    unfold step
    split
    case h_1 => exact absurd rfl hreceiver
    case h_2 => exact absurd rfl htype
    case h_3 => rfl

theorem kind?_of_qualify {tree : Tree} (h : qualifier.qualify tree = .ok result) :
    result.kind? = tree.kind? :=
  Tree.kind?_of_rewrite (fun _ _ _ => step_kind?) h

theorem isKind_of_qualify {tree : Tree} (h : qualifier.qualify tree = .ok result) (kind : Kind) :
    result.isKind kind = tree.isKind kind := by
  rw [Tree.isKind, Tree.isKind, kind?_of_qualify h]

theorem word?_of_qualify {tree : Tree} (h : qualifier.qualify tree = .ok result) :
    result.word? = tree.word? :=
  Tree.word?_of_rewrite (fun _ _ _ => step_kind?) h

/-- What is below a path keeps its names. -/
theorem pathNames_of_forall₂ {children results : List Tree}
    (h : List.Forall₂ (fun tree result => qualifier.qualify tree = .ok result) children results) :
    (Tree.node .path results).pathNames = (Tree.node .path children).pathNames := by
  induction h with
  | nil => rfl
  | @cons tree result _ _ hfirst _ ih =>
    rw [Tree.pathNames_cons, Tree.pathNames_cons, ih, isKind_of_qualify hfirst]
    -- Only segments have names, and their word is not rewritten.
    cases hsegment : tree.isKind .segment with
    | false => rfl
    | true =>
      obtain ⟨below, rfl⟩ := Tree.exists_of_isKind hsegment
      obtain ⟨found, hfound, rfl⟩ := (qualify_node_eq_ok_iff (by decide) (by decide)).mp hfirst
      cases hfound with
      | nil => rfl
      | cons hword _ => simp [Tree.children, word?_of_qualify hword]

/-- What is below a path keeps its spelling. -/
theorem spelling_of_forall₂ {children results : List Tree}
    (h : List.Forall₂ (fun tree result => qualifier.qualify tree = .ok result) children results) :
    (Tree.node .path results).spelling = (Tree.node .path children).spelling := by
  have hnames := pathNames_of_forall₂ h
  -- Whether there are colons in front is seen at the first child, which keeps its kind.
  have hhead : results.head?.any (·.isAbsent) = children.head?.any (·.isAbsent) := by
    cases h with
    | nil => rfl
    | cons hfirst _ => simp [Tree.isAbsent_eq_isKind, isKind_of_qualify hfirst]
  rw [Tree.spelling, Tree.spelling, hnames]
  exact congrArg (Spelling.mk · _) (congrArg not hhead)

theorem looksLike_of_qualify {tree : Tree} (h : qualifier.qualify tree = .ok result) :
    tree.LooksLike result := by
  refine ⟨(kind?_of_qualify h).symm, fun hkind => ?_⟩
  obtain ⟨children, rfl⟩ := Tree.exists_of_isKind hkind
  obtain ⟨results, hresults, rfl⟩ := (qualify_node_eq_ok_iff (by decide) (by decide)).mp h
  exact (spelling_of_forall₂ hresults).symm

/-- A missing child stays missing. -/
theorem eq_absent_of_qualify {tree : Tree} (hmissing : tree.isMissing = true)
    (h : qualifier.qualify tree = .ok result) : result = .absent := by
  rw [Tree.eq_absent_of_isMissing hmissing] at h
  exact (Except.ok.inj h).symm

theorem isPathPart_of_qualify {tree : Tree} (hpart : tree.isPathPart = true)
    (h : qualifier.qualify tree = .ok result) : result.isPathPart = true := by
  -- Colons stay, what is missing stays missing, and a segment keeps its word.
  rcases Tree.isPathPart_cases hpart with ⟨text, rfl⟩ | rfl | ⟨⟨name, arguments⟩, rfl, hsuper⟩
  · cases h
    rfl
  · rw [eq_absent_of_qualify rfl h]
    rfl
  · obtain ⟨results, hresults, rfl⟩ := (qualify_node_eq_ok_iff (by decide) (by decide)).mp h
    obtain ⟨word, _, hword, hrest, rfl⟩ := List.forall₂_cons_left_iff.mp hresults
    obtain ⟨found, _, hfound, hnil, rfl⟩ := List.forall₂_cons_left_iff.mp hrest
    cases hnil
    cases hword
    by_cases hname : name = "super"
    · obtain rfl : arguments = .absent := hsuper hname
      rw [eq_absent_of_qualify rfl hfound]
      simp [Tree.isPathPart, Tree.isMissing, Tree.absent]
    · simp [Tree.isPathPart, hname]

theorem all_isPathPart_of_forall₂ {children results : List Tree}
    (hchildren : children.all Tree.isPathPart = true)
    (h : List.Forall₂ (fun tree result => qualifier.qualify tree = .ok result) children results) :
    results.all Tree.isPathPart = true := by
  induction h with
  | nil => rfl
  | cons hfirst _ ih =>
    rw [List.all_cons, Bool.and_eq_true] at hchildren ⊢
    exact ⟨isPathPart_of_qualify hchildren.1 hfirst, ih hchildren.2⟩

/-- A node is there for a path that is spelled as before its children were qualified. -/
theorem usedPath?_of_forall₂ {kind : Kind} {children results : List Tree} {use : PathUse}
    (h : List.Forall₂ (fun tree result => qualifier.qualify tree = .ok result) children results) :
    ((Tree.node kind results).usedPath? use).map Tree.spelling =
      ((Tree.node kind children).usedPath? use).map Tree.spelling :=
  Tree.LooksLike.usedPath?_spelling (h.imp fun _ _ => looksLike_of_qualify)

/-- What is below a node keeps the shape of the node. -/
theorem hasShape_of_forall₂ {kind : Kind} {children results : List Tree}
    (hshape : (Tree.node kind children).hasShape = true)
    (h : List.Forall₂ (fun tree result => qualifier.qualify tree = .ok result) children results) :
    (Tree.node kind results).hasShape = true := by
  unfold Tree.hasShape
  -- The shape of a node speaks about its path, or about the colon and the type of a receiver.
  split
  case h_1 segments heq =>
    cases heq
    obtain ⟨path, _, hpath, hnil, rfl⟩ := List.forall₂_cons_right_iff.mp h
    cases hnil
    obtain ⟨below, rfl⟩ : ∃ below, path = .node .path below :=
      Tree.exists_of_isKind ((isKind_of_qualify hpath .path).symm.trans rfl)
    obtain ⟨found, hfound, hsame⟩ := (qualify_node_eq_ok_iff (by decide) (by decide)).mp hpath
    cases hsame
    exact all_isPathPart_of_forall₂ hshape hfound
  case h_2 heq =>
    cases heq
    obtain _ | ⟨-, _ | ⟨-, _ | ⟨-, _ | ⟨-, _ | ⟨-, _ | ⟨hcolon, _ | ⟨htype, _ | _⟩⟩⟩⟩⟩⟩⟩ := h
    rw [(looksLike_of_qualify hcolon).isAbsent_eq]
    rw [Tree.hasShape, Bool.or_eq_true, Bool.and_eq_true] at hshape
    obtain hpresent | ⟨hmissing, hnone⟩ := hshape
    · rw [hpresent, Bool.true_or]
    · rw [eq_absent_of_qualify hmissing hcolon, eq_absent_of_qualify hnone htype, Bool.or_eq_true]
      exact .inr rfl
  case h_3 => rfl

/-- A qualified path that is a type. -/
theorem mem_spellings_typePath (hnamed : qualifier.NamesBeginnings) {children : List Tree}
    (hchildren : children.all Tree.isPathPart = true)
    (h : qualifier.qualifyPath (.node .path children) = .ok path) (use : PathUse)
    (spelled : Spelling) : spelled ∈ (Tree.node .typePath [path]).spellings use ↔
      (use = .type ∧ qualifier.respell .type (Tree.node .path children).spelling = spelled) ∨
        spelled ∈ (Tree.node .path children).spellings use := by
  obtain ⟨hkind, hspelling, hinside⟩ := spelling_qualifyPath hchildren h
  rw [Tree.mem_spellings_node, List.exists_mem_cons_iff, hinside hnamed, ← hspelling]
  cases use with
  | type => simp [Tree.usedPath?, hkind]
  | bound | base => simp [Tree.usedPath?]

/-- A receiver whose type is written out has the paths of the type besides its own. -/
theorem mem_spellings_receiver {own reference name mutability self type : Tree} {use : PathUse}
    {spelled : Spelling} : spelled ∈ (Tree.node .receiver [own, reference, name, mutability, self,
        .op ":", receiverType type reference name mutability]).spellings use ↔
      spelled ∈ type.spellings use ∨
        ∃ child ∈ [own, reference, name, mutability, self], spelled ∈ child.spellings use := by
  -- What is put around the type names no other path than the children do.
  have htype : spelled ∈ (receiverType type reference name mutability).spellings use ∨
      (∃ child ∈ [own, reference, name, mutability, self], spelled ∈ child.spellings use) ↔
      spelled ∈ type.spellings use ∨
        ∃ child ∈ [own, reference, name, mutability, self], spelled ∈ child.spellings use := by
    unfold receiverType
    split
    case isTrue => rfl
    case isFalse =>
      rw [Tree.mem_spellings_of_unused (by cases use <;> rfl)]
      simp only [List.exists_mem_cons_iff, List.not_mem_nil]
      tauto
  have hcolon : spelled ∉ (Tree.op ":").spellings use := Tree.not_mem_spellings_op
  rw [← htype, Tree.mem_spellings_of_unused (by cases use <;> rfl)]
  simp only [List.exists_mem_cons_iff, List.not_mem_nil]
  tauto

/-- A step spells the path of its node again and keeps all others. -/
theorem mem_spellings_step (hnamed : qualifier.NamesBeginnings) {kind : Kind}
    {children : List Tree} (hshape : (Tree.node kind children).hasShape = true)
    (h : qualifier.step kind children = .ok result) (use : PathUse) (spelled : Spelling) :
    spelled ∈ result.spellings use ↔
      (∃ old, ((Tree.node kind children).usedPath? use).map Tree.spelling = some old ∧
        qualifier.respell use old = spelled) ∨
        ∃ child ∈ children, spelled ∈ child.spellings use := by
  rcases step_eq_ok_cases h with ⟨own, reference, name, mutability, self, missing, type, path, rfl,
      rfl, hpath, rfl⟩ | ⟨segments, path, rfl, rfl, hpath, rfl⟩ | ⟨hnone, rfl⟩
  · -- A receiver without a type gets the type `Self`, which is the one path that it uses.
    have hself : (plainPath (.word "Self")).spellings use = [] := by cases use <;> rfl
    rw [Tree.hasShape, Tree.isAbsent, Bool.not_true, Bool.false_or, Bool.and_eq_true] at hshape
    rw [Tree.eq_absent_of_isMissing hshape.1, Tree.eq_absent_of_isMissing hshape.2,
      mem_spellings_receiver, mem_spellings_typePath hnamed rfl hpath]
    simp only [List.exists_mem_cons_iff, List.not_mem_nil, Tree.spellings_absent]
    rw [show Tree.node .path _ = plainPath (.word "Self") from rfl, hself]
    cases use with
    | type => simp [Tree.usedPath?, Tree.isAbsent, Tree.absent]
    | bound | base => simp [Tree.usedPath?]
  · -- The path of a type is spelled anew.
    rw [mem_spellings_typePath hnamed hshape hpath, List.exists_mem_cons_iff]
    cases use with
    | type => simp [Tree.usedPath?, Tree.isKind, Tree.kind?]
    | bound | base => simp [Tree.usedPath?]
  · -- Nothing else changes, and the paths of traits are not respelled.
    rw [Tree.mem_spellings_node]
    cases use with
    | type => simp [hnone]
    | bound | base => simp [respell]

/-- A spelling in a qualified type is a spelling of the type, spelled again. -/
theorem mem_spellings_qualify (hnamed : qualifier.NamesBeginnings) {type : Tree}
    (htype : type.IsProper) (h : qualifier.qualify type = .ok result) (use : PathUse)
    (spelled : Spelling) : spelled ∈ result.spellings use ↔
      ∃ old ∈ type.spellings use, qualifier.respell use old = spelled := by
  induction type using Tree.inductionOn generalizing result spelled with
  | leaf tree hleaf =>
    rw [qualify, Tree.rewrite_leaf hleaf] at h
    cases h
    rw [Tree.spellings_leaf hleaf]
    simp
  | group delimiter content ih =>
    obtain ⟨results, hresults, rfl⟩ := Tree.rewrite_group_eq_ok_iff.mp h
    rw [Tree.mem_spellings_group,
      Tree.exists_mem_iff_of_forall₂ hresults fun tree result htree hresult =>
        ih tree htree (htype.of_mem_group htree) hresult spelled]
    simp only [Tree.mem_spellings_group]
    constructor
    · rintro ⟨tree, htree, old, hold, rfl⟩
      exact ⟨old, ⟨tree, htree, hold⟩, rfl⟩
    · rintro ⟨old, ⟨tree, htree, hold⟩, rfl⟩
      exact ⟨tree, htree, old, hold, rfl⟩
  | node kind children ih =>
    obtain ⟨results, hresults, hstep⟩ := Tree.rewrite_node_eq_ok_iff.mp h
    -- The children are qualified first; the step then sees a node of the same shape.
    have hshape := hasShape_of_forall₂ htype.hasShape hresults
    rw [mem_spellings_step hnamed hshape hstep, usedPath?_of_forall₂ hresults,
      Tree.exists_mem_iff_of_forall₂ hresults fun tree result htree hresult =>
        ih tree htree (htype.of_mem_node htree) hresult spelled]
    simp only [Tree.mem_spellings_node]
    constructor
    · rintro (⟨old, hold, rfl⟩ | ⟨tree, htree, old, hold, rfl⟩)
      · exact ⟨old, .inl hold, rfl⟩
      · exact ⟨old, .inr ⟨tree, htree, hold⟩, rfl⟩
    · rintro ⟨old, hold | ⟨tree, htree, hold⟩, rfl⟩
      · exact .inl ⟨old, hold, rfl⟩
      · exact .inr ⟨tree, htree, old, hold, rfl⟩

/-- The paths of traits are spelled as before. -/
theorem mem_spellings_trait (hnamed : qualifier.NamesBeginnings) {type : Tree}
    (htype : type.IsProper) (h : qualifier.qualify type = .ok result) {use : PathUse}
    (huse : use ≠ .type) (spelled : Spelling) :
    spelled ∈ result.spellings use ↔ spelled ∈ type.spellings use := by
  rw [mem_spellings_qualify hnamed htype h]
  cases use with
  | type => exact absurd rfl huse
  | bound | base => simp [respell]

end Qualifier

end RouteRegistrar
