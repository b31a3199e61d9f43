import RouteRegistrar.Proofs.Grammar.Rewriting
import RouteRegistrar.Source.Qualification

/-!
# The paths in a type

A path is spelled by its names and by the colons in front. It is in a type for something: it is a
type itself, or the trait of a bound, or the trait behind `as`. This module collects how the paths
of a type are spelled, and says what a path put together from segments is spelled like.
-/

namespace RouteRegistrar

open Grammar

/-! ## Spellings -/

/-- How a path is written: whether it starts at the root of all names, and its names. -/
structure Spelling where
  isRooted : Bool
  names : List String
  deriving DecidableEq, Repr

/-- How a path is spelled as seen from the entry target. -/
def ItemPath.spelling (path : ItemPath) (libraryName : Option String) : Spelling :=
  ⟨(path.anchor libraryName).1, (path.anchor libraryName).2 ++ path.segments⟩

/-- What a path in a type is there for. -/
inductive PathUse where
  /-- A type. -/
  | type
  /-- The trait of a bound. -/
  | bound
  /-- The trait behind `as` in a qualified type. -/
  | base
  deriving DecidableEq, Repr

namespace Tree

/-- How a path is spelled. -/
def spelling (path : Tree) : Spelling :=
  ⟨!path.children.head?.any (·.isAbsent), path.pathNames⟩

/-- The path that a node is there for. A receiver that gives no type is there for `Self`. -/
def usedPath? : PathUse → Tree → Option Tree
  | .type, node .typePath [path] => if path.isKind .path then some path else none
  | .type, node .receiver [_, _, _, _, _, colon, _] =>
    if colon.isAbsent then some (plainPath (word "Self")) else none
  | .bound, node .traitBound [_, _, path] => if path.isKind .path then some path else none
  | .base, node .asTrait [_, path] => if path.isKind .path then some path else none
  | _, _ => none

/-- The spellings of all paths in a type that are there for something. -/
def spellings (use : PathUse) (type : Tree) : List Spelling :=
  type.parts.filterMap fun part => (part.usedPath? use).map spelling

/-! ## Shapes -/

/-- A missing child has no children of its own. -/
def isMissing : Tree → Bool
  | node .absent [] => true
  | _ => false

/-- What a path consists of: separators and named segments. There are no arguments behind
`super`. -/
def isPathPart : Tree → Bool
  | op _ => true
  | node .segment [word name, arguments] => name ≠ "super" || arguments.isMissing
  | other => other.isMissing

/-- Paths of types consist of what paths consist of, and a receiver has a type only behind a
colon. -/
def hasShape : Tree → Bool
  | node .typePath [node .path children] => children.all isPathPart
  | node .receiver [_, _, _, _, _, colon, type] =>
    !colon.isAbsent || (colon.isMissing && type.isMissing)
  | _ => true

/-- All parts of a type have their shape. -/
def IsProper (type : Tree) : Prop := ∀ part ∈ type.parts, part.hasShape = true

instance (type : Tree) : Decidable type.IsProper :=
  List.decidableBAll (fun part => hasShape part = true) type.parts

theorem IsProper.hasShape {type : Tree} (h : type.IsProper) : type.hasShape = true := by
  refine h type ?_
  cases type with
  | node => rw [parts_node]; exact List.mem_cons_self
  | group => rw [parts_group]; exact List.mem_cons_self
  | _ => exact List.mem_singleton_self _

theorem IsProper.of_mem_node {kind : Kind} {children : List Tree} {tree : Tree}
    (h : (node kind children).IsProper) (htree : tree ∈ children) : tree.IsProper := by
  intro part hpart
  refine h part ?_
  rw [parts_node]
  exact List.mem_cons_of_mem _ (List.mem_flatMap.mpr ⟨tree, htree, hpart⟩)

theorem IsProper.of_mem_group {delimiter : Delimiter} {content : List Tree} {tree : Tree}
    (h : (group delimiter content).IsProper) (htree : tree ∈ content) : tree.IsProper := by
  intro part hpart
  refine h part ?_
  rw [parts_group]
  exact List.mem_cons_of_mem _ (List.mem_flatMap.mpr ⟨tree, htree, hpart⟩)

/-- A segment, given its name and its arguments. -/
def namedSegment (segment : String × Tree) : Tree := node .segment [word segment.1, segment.2]

end Tree
/-! ## Paths put together -/

/-- A name can be written as an identifier. -/
def ItemPath.isWritable (name : String) : Bool :=
  match nameWord name with
  | .ok _ => true
  | .error _ => false

theorem ItemPath.nameWord_eq_ok_iff {name : String} {tree : Tree} :
    nameWord name = .ok tree ↔ isWritable name = true ∧ tree = .word name := by
  -- A name is rejected or becomes the word as it stands, also if it is raw.
  have hword : ∀ tree, nameWord name = .ok tree → tree = .word name := by
    intro tree h
    unfold nameWord identifier at h
    repeat' split at h
    all_goals cases h
    all_goals rfl
  constructor
  · intro h
    exact ⟨by rw [isWritable, h], hword tree h⟩
  · rintro ⟨hwritable, rfl⟩
    cases hname : nameWord name with
    | ok found => rw [hword found hname]
    | error => rw [isWritable, hname] at hwritable; cases hwritable

/-- The segments of a path are its names, if these can be written. -/
theorem ItemPath.segmentTrees_eq_ok_iff {path : ItemPath} {libraryName : Option String}
    {trees : List Tree} : path.segmentTrees libraryName = .ok trees ↔
      (∀ name ∈ (path.spelling libraryName).names, isWritable name = true) ∧
        trees = (path.spelling libraryName).names.map
          fun name => .namedSegment (name, .absent) := by
  -- Every name is written on its own, so the list can be gone through name by name.
  have hstep : ∀ name tree, (nameWord name).map plainSegment = .ok tree ↔
      isWritable name = true ∧ tree = .namedSegment (name, .absent) := by
    intro name tree
    cases hname : nameWord name with
    | ok found =>
      obtain ⟨hwritable, rfl⟩ := nameWord_eq_ok_iff.mp hname
      rw [Except.map, Except.ok.injEq, hwritable, eq_self_iff_true, true_and]
      exact eq_comm
    | error failure => simp [Except.map, isWritable, hname]
  rw [segmentTrees, show (path.anchor libraryName).2 ++ path.segments =
    (path.spelling libraryName).names from rfl]
  generalize (path.spelling libraryName).names = names
  induction names generalizing trees with
  | nil =>
    rw [List.mapM_nil, List.map_nil]
    constructor
    · intro h
      exact ⟨nofun, (Except.ok.inj h).symm⟩
    · rintro ⟨-, rfl⟩
      rfl
  | cons first rest ih =>
    rw [mapM_cons_eq_ok]
    constructor
    · rintro ⟨head, tail, hhead, htail, rfl⟩
      obtain ⟨hfirst, rfl⟩ := (hstep first head).mp hhead
      obtain ⟨hrest, rfl⟩ := ih.mp htail
      exact ⟨List.forall_mem_cons.mpr ⟨hfirst, hrest⟩, rfl⟩
    · rintro ⟨hall, rfl⟩
      obtain ⟨hfirst, hrest⟩ := List.forall_mem_cons.mp hall
      exact ⟨_, _, (hstep first _).mpr ⟨hfirst, rfl⟩, ih.mpr ⟨hrest, rfl⟩, rfl⟩

/-- What is made of the segments of a path is there if its names can be written. -/
theorem ItemPath.map_segmentTrees_eq_ok_iff {path : ItemPath} {libraryName : Option String}
    {build : List Tree → Tree} {tree : Tree} :
    (path.segmentTrees libraryName).map build = .ok tree ↔
      (∀ name ∈ (path.spelling libraryName).names, isWritable name = true) ∧
        tree = build ((path.spelling libraryName).names.map
          fun name => .namedSegment (name, .absent)) := by
  cases htrees : path.segmentTrees libraryName with
  | ok trees =>
    obtain ⟨hnames, rfl⟩ := segmentTrees_eq_ok_iff.mp htrees
    rw [Except.map, Except.ok.injEq]
    exact ⟨fun h => ⟨hnames, h.symm⟩, fun h => h.2.symm⟩
  | error failure =>
    refine ⟨nofun, fun h => ?_⟩
    cases htrees.symm.trans (segmentTrees_eq_ok_iff.mpr ⟨h.1, rfl⟩)

namespace Tree

theorem filter_intersperse {p : Tree → Bool} {separator : Tree} (hseparator : p separator = false)
    (trees : List Tree) : (trees.intersperse separator).filter p = trees.filter p := by
  induction trees with
  | nil => rfl
  | cons first rest ih =>
    cases rest with
    | nil => rfl
    | cons second rest =>
      rw [List.intersperse_cons_cons]
      simp only [List.filter_cons, hseparator] at ih ⊢
      simp [ih]

/-- A path put together from segments consists of these. -/
theorem segments_pathOfSegments_of_isKind {trees : List Tree} (rooted : Bool)
    (h : ∀ tree ∈ trees, tree.isKind .segment = true) :
    segments (pathOfSegments rooted trees) = trees := by
  have hfirst : isKind .segment (if rooted then op "::" else absent) = false := by
    cases rooted <;> rfl
  rw [segments, pathOfSegments, children, List.filter_cons_of_neg (by simp [hfirst]),
    filter_intersperse rfl, List.filter_eq_self]
  exact h

theorem segments_pathOfSegments (rooted : Bool) (found : List (String × Tree)) :
    segments (pathOfSegments rooted (found.map namedSegment)) = found.map namedSegment := by
  refine segments_pathOfSegments_of_isKind rooted fun tree htree => ?_
  obtain ⟨segment, -, rfl⟩ := List.mem_map.mp htree
  rfl

/-- A path of named segments has their names. -/
theorem pathNames_of_segments {path : Tree} {found : List (String × Tree)}
    (h : segments path = found.map namedSegment) : path.pathNames = found.map (·.1) := by
  rw [pathNames, h, List.filterMap_map]
  exact congrFun (List.filterMap_eq_map (f := fun segment : String × Tree => segment.1)) found

theorem pathNames_cons (first : Tree) (rest : List Tree) :
    (node .path (first :: rest)).pathNames =
      (if first.isKind .segment then (first.children.head?.bind word?).toList else []) ++
        (node .path rest).pathNames := by
  -- A child counts if it is a segment, and then with its word.
  have hsegments : segments (.node .path (first :: rest)) =
      (if first.isKind .segment then [first] else []) ++ segments (.node .path rest) := by
    rw [segments, segments, children, children, List.filter_cons]
    split <;> rfl
  rw [pathNames, pathNames, hsegments, List.filterMap_append]
  cases first.isKind .segment with
  | true => cases hname : first.children.head?.bind word? <;> simp [hname]
  | false => rfl

theorem spelling_pathOfSegments (rooted : Bool) (found : List (String × Tree)) :
    (pathOfSegments rooted (found.map namedSegment)).spelling = ⟨rooted, found.map (·.1)⟩ := by
  rw [spelling, pathNames_of_segments (segments_pathOfSegments rooted found)]
  cases rooted <;> rfl

/-- The last of some segments is given arguments. -/
theorem setArguments_concat (arguments : Tree) (front : List (String × Tree))
    (last : String × Tree) : setArguments arguments ((front ++ [last]).map namedSegment) =
      (front ++ [(last.1, arguments)]).map namedSegment := by
  simp [setArguments, namedSegment]

theorem exists_of_isKind {kind : Kind} {tree : Tree} (h : tree.isKind kind = true) :
    ∃ children, tree = node kind children := by
  cases tree with
  | node found children =>
    obtain rfl : found = kind := by simpa [isKind, kind?] using h
    exact ⟨children, rfl⟩
  | _ => cases h

theorem isAbsent_eq_isKind (tree : Tree) : tree.isAbsent = tree.isKind .absent := by
  cases tree with
  | node kind children => cases kind <;> rfl
  | _ => rfl

theorem eq_absent_of_isMissing {tree : Tree} (h : tree.isMissing = true) : tree = absent := by
  unfold isMissing at h
  split at h
  case h_1 => rfl
  case h_2 => cases h

/-- What a path consists of. -/
theorem isPathPart_cases {tree : Tree} (h : tree.isPathPart = true) :
    (∃ text, tree = op text) ∨ tree = absent ∨
      ∃ segment, tree = namedSegment segment ∧ (segment.1 = "super" → segment.2 = absent) := by
  unfold isPathPart at h
  split at h
  case h_1 text => exact .inl ⟨text, rfl⟩
  case h_2 name arguments =>
    refine .inr (.inr ⟨(name, arguments), rfl, fun hname => eq_absent_of_isMissing ?_⟩)
    simpa [show name = "super" from hname] using h
  case h_3 => exact .inr (.inl (eq_absent_of_isMissing h))

/-- The segments of a path are named, and `super` has no arguments. -/
theorem exists_segments {children : List Tree} (h : children.all isPathPart = true) :
    ∃ found : List (String × Tree), segments (node .path children) = found.map namedSegment ∧
      ∀ segment ∈ found, segment.1 = "super" → segment.2 = absent := by
  induction children with
  | nil => exact ⟨[], rfl, nofun⟩
  | cons first rest ih =>
    rw [List.all_cons, Bool.and_eq_true] at h
    obtain ⟨hfirst, hrest⟩ := h
    obtain ⟨found, hfound, hsuper⟩ := ih hrest
    rw [segments, children] at hfound ⊢
    -- Of the parts of a path, only the segments count.
    rcases isPathPart_cases hfirst with ⟨text, rfl⟩ | rfl | ⟨segment, rfl, hsegment⟩
    · exact ⟨found, hfound, hsuper⟩
    · exact ⟨found, hfound, hsuper⟩
    · refine ⟨segment :: found, ?_, List.forall_mem_cons.mpr ⟨hsegment, hsuper⟩⟩
      rw [List.filter_cons_of_pos rfl, hfound, List.map_cons]

/-! ## Trees in the place of others -/

/-- A tree is of the same kind as another one and, if it is a path, spelled the same. -/
structure LooksLike (tree other : Tree) : Prop where
  kind?_eq : tree.kind? = other.kind?
  spelling_eq : tree.isKind .path = true → tree.spelling = other.spelling

namespace LooksLike

variable {tree other : Tree} {children others : List Tree} {kind : Kind} {use : PathUse}

theorem isKind_eq (h : tree.LooksLike other) (kind : Kind) :
    other.isKind kind = tree.isKind kind := by
  rw [isKind, isKind, h.kind?_eq]

theorem symm (h : tree.LooksLike other) : other.LooksLike tree :=
  ⟨h.kind?_eq.symm, fun hkind => (h.spelling_eq ((h.isKind_eq .path).symm.trans hkind)).symm⟩

theorem isAbsent_eq (h : tree.LooksLike other) : other.isAbsent = tree.isAbsent := by
  rw [isAbsent_eq_isKind, isAbsent_eq_isKind, h.isKind_eq]

/-- What a node is there for does not depend on what is below a path. -/
theorem exists_usedPath? (h : List.Forall₂ LooksLike children others) {path : Tree}
    (hpath : (node kind children).usedPath? use = some path) :
    ∃ found, (node kind others).usedPath? use = some found ∧ found.spelling = path.spelling := by
  unfold usedPath? at hpath
  -- One case for each use of a path; the trees that matter for it look alike on both sides.
  split at hpath
  case h_1 heq =>
    cases heq
    obtain ⟨hkind, rfl⟩ := Option.ite_some_none_eq_some.mp hpath
    obtain _ | ⟨hfound, _ | _⟩ := h
    exact ⟨_, if_pos ((hfound.isKind_eq .path).trans hkind), (hfound.spelling_eq hkind).symm⟩
  case h_2 heq =>
    cases heq
    obtain ⟨habsent, rfl⟩ := Option.ite_some_none_eq_some.mp hpath
    obtain _ | ⟨-, _ | ⟨-, _ | ⟨-, _ | ⟨-, _ | ⟨-, _ | ⟨hcolon, _ | ⟨-, _ | _⟩⟩⟩⟩⟩⟩⟩ := h
    exact ⟨_, if_pos (hcolon.isAbsent_eq.trans habsent), rfl⟩
  case h_3 heq =>
    cases heq
    obtain ⟨hkind, rfl⟩ := Option.ite_some_none_eq_some.mp hpath
    obtain _ | ⟨-, _ | ⟨-, _ | ⟨hfound, _ | _⟩⟩⟩ := h
    exact ⟨_, if_pos ((hfound.isKind_eq .path).trans hkind), (hfound.spelling_eq hkind).symm⟩
  case h_4 heq =>
    cases heq
    obtain ⟨hkind, rfl⟩ := Option.ite_some_none_eq_some.mp hpath
    obtain _ | ⟨-, _ | ⟨hfound, _ | _⟩⟩ := h
    exact ⟨_, if_pos ((hfound.isKind_eq .path).trans hkind), (hfound.spelling_eq hkind).symm⟩
  case h_5 => cases hpath

/-- Nodes whose children look alike are there for paths that are spelled the same. -/
theorem usedPath?_spelling (h : List.Forall₂ LooksLike children others) :
    ((node kind others).usedPath? use).map spelling =
      ((node kind children).usedPath? use).map spelling := by
  -- Looking alike goes both ways, so one direction is enough.
  have hsymm : List.Forall₂ LooksLike others children := h.flip.imp fun _ _ => symm
  refine Option.ext fun spelled => ?_
  simp only [Option.map_eq_some_iff]
  constructor
  · rintro ⟨path, hpath, rfl⟩
    exact exists_usedPath? hsymm hpath
  · rintro ⟨path, hpath, rfl⟩
    exact exists_usedPath? h hpath

end LooksLike

/-! ## Spellings in parts -/

variable {use : PathUse} {spelled : Spelling}

theorem spellings_leaf {tree : Tree} (h : tree.isLeaf = true) : tree.spellings use = [] := by
  rw [spellings, parts_leaf h]
  cases tree with
  | node | group => cases h
  | _ => cases use <;> rfl

/-- A spelling in a node is that of the node itself, or one in a child. -/
theorem mem_spellings_node {kind : Kind} {children : List Tree} :
    spelled ∈ (node kind children).spellings use ↔
      ((node kind children).usedPath? use).map spelling = some spelled ∨
        ∃ child ∈ children, spelled ∈ child.spellings use := by
  rw [spellings, parts_node, List.filterMap_cons, List.filterMap_flatMap]
  cases ((node kind children).usedPath? use).map spelling with
  | none => simp [spellings, List.mem_flatMap]
  | some own => simp [spellings, List.mem_flatMap, eq_comm]

/-- A node that is there for nothing has the spellings in its children. -/
theorem mem_spellings_of_unused {kind : Kind} {children : List Tree}
    (h : (node kind children).usedPath? use = none) :
    spelled ∈ (node kind children).spellings use ↔
      ∃ child ∈ children, spelled ∈ child.spellings use := by
  rw [mem_spellings_node, h, Option.map_none, or_iff_right nofun]

theorem mem_spellings_group {delimiter : Delimiter} {content : List Tree} :
    spelled ∈ (group delimiter content).spellings use ↔
      ∃ tree ∈ content, spelled ∈ tree.spellings use := by
  have hnone : (group delimiter content).usedPath? use = none := by cases use <;> rfl
  rw [spellings, parts_group, List.filterMap_cons, List.filterMap_flatMap, hnone]
  simp [spellings, List.mem_flatMap]

theorem not_mem_spellings_op {text : String} : spelled ∉ (op text).spellings use := by
  rw [spellings_leaf rfl]
  exact List.not_mem_nil

theorem spellings_absent : absent.spellings use = [] := by cases use <;> rfl

theorem mem_spellings_namedSegment {segment : String × Tree} :
    spelled ∈ (namedSegment segment).spellings use ↔ spelled ∈ segment.2.spellings use := by
  have hword : (word segment.1).spellings use = [] := spellings_leaf rfl
  rw [namedSegment, mem_spellings_of_unused (by cases use <;> rfl)]
  simp [hword]

theorem exists_mem_intersperse (holds : Tree → Prop) {separator : Tree}
    (h : ¬holds separator) (trees : List Tree) :
    (∃ tree ∈ trees.intersperse separator, holds tree) ↔ ∃ tree ∈ trees, holds tree := by
  induction trees with
  | nil => rfl
  | cons first rest ih =>
    cases rest with
    | nil => rfl
    | cons second rest =>
      rw [List.intersperse_cons_cons, List.exists_mem_cons_iff, List.exists_mem_cons_iff, ih,
        List.exists_mem_cons_iff holds first, or_iff_right h]

/-- A path put together from segments consists of these and of separators. -/
theorem forall_mem_pathOfSegments (holds : Tree → Prop) (hcolons : holds (op "::"))
    (habsent : holds absent) {rooted : Bool} {trees : List Tree} :
    (∀ child ∈ (pathOfSegments rooted trees).children, holds child) ↔
      ∀ tree ∈ trees, holds tree := by
  have hfirst : holds (if rooted then op "::" else absent) := by
    cases rooted with
    | true => exact hcolons
    | false => exact habsent
  -- The separators hold, so only the segments are left to ask for.
  have hbetween := exists_mem_intersperse (¬holds ·) (not_not.mpr hcolons) trees
  rw [pathOfSegments, children, List.forall_mem_cons, and_iff_right hfirst, ← not_iff_not]
  simpa only [not_forall, exists_prop] using hbetween

/-- A path has the spellings in the arguments of its segments. -/
theorem mem_spellings_pathOfSegments {rooted : Bool} {found : List (String × Tree)} :
    spelled ∈ (pathOfSegments rooted (found.map namedSegment)).spellings use ↔
      ∃ segment ∈ found, spelled ∈ segment.2.spellings use := by
  have hcolons : spelled ∉ (if rooted then op "::" else absent).spellings use := by
    cases rooted <;> cases use <;> nofun
  rw [pathOfSegments, mem_spellings_of_unused (by cases use <;> rfl), List.exists_mem_cons_iff,
    or_iff_right hcolons, exists_mem_intersperse _ not_mem_spellings_op]
  simp [mem_spellings_namedSegment]

theorem mem_spellings_path {children : List Tree} {found : List (String × Tree)}
    (hchildren : children.all isPathPart = true)
    (hfound : segments (node .path children) = found.map namedSegment) :
    spelled ∈ (node .path children).spellings use ↔
      ∃ segment ∈ found, spelled ∈ segment.2.spellings use := by
  rw [mem_spellings_of_unused (by cases use <;> rfl)]
  -- Only segments have spellings in them.
  have hsegments : (∃ child ∈ children, spelled ∈ child.spellings use) ↔
      ∃ child ∈ segments (node .path children), spelled ∈ child.spellings use := by
    simp only [segments, Tree.children, List.mem_filter]
    refine exists_congr fun child => ?_
    constructor
    · rintro ⟨hchild, hspelled⟩
      rcases isPathPart_cases (List.all_eq_true.mp hchildren child hchild) with
        ⟨text, rfl⟩ | rfl | ⟨segment, rfl, -⟩
      · exact absurd hspelled not_mem_spellings_op
      · rw [spellings_absent] at hspelled
        cases hspelled
      · exact ⟨⟨hchild, rfl⟩, hspelled⟩
    · rintro ⟨⟨hchild, -⟩, hspelled⟩
      exact ⟨hchild, hspelled⟩
  rw [hsegments, hfound]
  simp [mem_spellings_namedSegment]

/-! ## Arguments of the last segment -/

variable {names : List String} {header : List (String × Tree)}

/-- Segments without arguments are given by their names. -/
theorem eq_map_absent (h : ¬∃ segment ∈ header, segment.2 ≠ absent) :
    header = (header.map (·.1)).map (·, absent) := by
  rw [List.map_map]
  conv_lhs => rw [← List.map_id header]
  refine List.map_congr_left fun segment hsegment => Prod.ext rfl ?_
  by_contra hpresent
  exact h ⟨segment, hsegment, hpresent⟩

/-- Segments of which only the last one has arguments. -/
def withArguments (names : List String) (arguments : Tree) : List (String × Tree) :=
  match names.getLast? with
  | none => []
  | some last => names.dropLast.map (·, absent) ++ [(last, arguments)]

theorem withArguments_concat (front : List String) (last : String) (arguments : Tree) :
    withArguments (front ++ [last]) arguments = front.map (·, absent) ++ [(last, arguments)] := by
  simp [withArguments]

theorem map_fst_withArguments (names : List String) (arguments : Tree) :
    (withArguments names arguments).map (·.1) = names := by
  rcases List.eq_nil_or_concat names with rfl | ⟨front, last, rfl⟩
  · rfl
  · rw [List.concat_eq_append, withArguments_concat]
    simp [Function.comp_def]

/-- The last of some plain segments is given arguments. -/
theorem setArguments_names (names : List String) (arguments : Tree) :
    setArguments arguments (names.map fun name => namedSegment (name, absent)) =
      (withArguments names arguments).map namedSegment := by
  rcases List.eq_nil_or_concat names with rfl | ⟨front, last, rfl⟩
  · rfl
  · rw [List.concat_eq_append, withArguments_concat,
      ← setArguments_concat arguments _ (last, absent)]
    simp [Function.comp_def]

/-- Segments with arguments on the last one at most are given by their names and these. -/
theorem eq_withArguments (h : ∀ segment ∈ header.dropLast, segment.2 = absent) :
    header = withArguments (header.map (·.1)) ((header.getLast?.map (·.2)).getD absent) := by
  rcases List.eq_nil_or_concat header with rfl | ⟨front, last, rfl⟩
  · rfl
  · rw [List.concat_eq_append, List.dropLast_concat] at h
    have hfront : front = (front.map (·.1)).map (·, absent) :=
      eq_map_absent fun ⟨named, hnamed, hpresent⟩ => hpresent (h named hnamed)
    rw [List.concat_eq_append, List.map_append, List.map_singleton, withArguments_concat, ← hfront]
    simp

/-- What holds of no missing arguments holds of those of the last segment, if there is one. -/
theorem exists_mem_withArguments {arguments : Tree} (holds : Tree → Prop) (hnone : ¬holds absent) :
    (∃ segment ∈ withArguments names arguments, holds segment.2) ↔
      names ≠ [] ∧ holds arguments := by
  rcases List.eq_nil_or_concat names with rfl | ⟨front, last, rfl⟩
  · simp [withArguments]
  · rw [List.concat_eq_append, withArguments_concat]
    simp [or_and_right, exists_or, hnone]

end Tree

end RouteRegistrar
