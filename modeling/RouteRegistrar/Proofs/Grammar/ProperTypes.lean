import RouteRegistrar.Grammar.Pattern
import RouteRegistrar.Proofs.Grammar.Proper

/-!
# Paths, types and patterns are proper

Two rules have to do with the shape of a type: the rule of a segment, which gives no arguments to
`super`, and the rule of a type that begins with a path. All other rules follow from what they are
put together from.
-/

open RouteRegistrar.Parser

namespace RouteRegistrar

set_option synthInstance.maxSize 100000

/-! ## Goals -/

instance : HoldsTrees Goal where
  trees
    | .continued lhs _ _ => [lhs]
    | _ => []

/-- Goals that have no trees in them. -/
abbrev Goal.isPlain : Goal → Bool
  | .continued .. => false
  | _ => true

instance {goal : Goal} [h : Holds goal.isPlain] : Proper goal := by
  constructor
  cases goal with
  | continued => cases h.eq_true
  | _ => exact nofun

instance {lhs : Tree} {structs : Bool} {base : Precedence} [h : Proper lhs] :
    Proper (Goal.continued lhs structs base) := ⟨h.isProper⟩

/-- Parsers of all goals that find proper trees. -/
class Sound (sub : Goal → Parser Tree) : Prop where
  readsProper : ∀ goal, Proper goal → (sub goal).ReadsProper

instance {sub : Goal → Parser Tree} {goal : Goal} [h : Sound sub] [hgoal : Proper goal] :
    (sub goal).ReadsProper := h.readsProper goal hgoal

namespace Grammar

/-! ## Paths without arguments -/

instance {name : Tree} [Proper name] : Proper (plainSegment name) := by
  delta plainSegment; infer_instance

instance {name : Tree} [Proper name] : Proper (plainPath name) := by delta plainPath; infer_instance

instance : modulePath.ReadsProper := by delta modulePath; infer_instance

instance {path : Tree} [Proper path] : (macroRest path).ReadsProper := by
  delta macroRest; infer_instance

instance : macroCall.ReadsProper := by delta macroCall; infer_instance

/-! ## Paths with arguments -/

variable {sub : Goal → Parser Tree}

/-- A word that is read comes next. -/
theorem exists_startsWord {ts rest : List Token} {name : Tree}
    (h : anyWord ts = some (name, rest)) :
    ∃ text, name = .word text ∧ startsWord text ts = true := by
  cases ts with
  | nil => cases h
  | cons t ts =>
    obtain ⟨_, haccept, hpair⟩ := Option.map_eq_some_iff.mp h
    cases hpair
    dsimp only at haccept
    split at haccept <;> cases haccept
    exact ⟨_, rfl, by simp [startsWord]⟩

/-- An identifier is a word that passes a test. -/
theorem anyWord_of_ident {ts rest : List Token} {name : Tree}
    (h : Parser.ident ts = some (name, rest)) : anyWord ts = some (name, rest) := by
  obtain ⟨⟨_, left⟩, hrequire, h⟩ := Option.bind_eq_some_iff.mp
    (show (require (startsIdent ts) >>= fun _ => anyWord) ts = _ from h)
  unfold require at hrequire
  split at hrequire <;> cases hrequire
  exact h

/-- There are no arguments behind `super`. -/
theorem segment_ensures (inExpr : Bool) :
    (segment sub inExpr).Ensures fun part => part.isPathPart = true := by
  have hplain (text : String) : (plainSegment (.word text)).isPathPart = true := by
    simp [plainSegment, Tree.isPathPart, Tree.isMissing, Tree.absent]
  have hword : (plainSegment <$> anyWord).Ensures fun part => part.isPathPart = true := by
    refine .bind .anyWord ?_
    rintro _ ⟨text, rfl, -⟩
    exact .pure (hplain text)
  have hnext {text : String} (htext : text ≠ "super") : (do
      let ts ← ahead
      if (!inExpr && startsOp "<" ts && !startsOp "<=" ts) ||
          (startsOp "::" ts && startsOp "<" (skipTwo ts)) then
        return .node .segment [.word text, ← sub .arguments]
      return plainSegment (.word text) : Parser Tree).Ensures fun part =>
        part.isPathPart = true := by
    refine .after fun ts => .ite (fun _ => ?_) fun _ => .pure (hplain text)
    exact .after fun arguments => .pure (by simp [Tree.isPathPart, htext])
  refine .ahead fun {ts rest part} hts h => ?_
  split at h
  case isTrue => exact hword.holds hts h
  case isFalse hahead =>
    -- The name in front of the arguments comes next, and that is not `super`.
    have hname {name : Tree} {left : List Token} (h : anyWord ts = some (name, left)) :
        ∃ text, name = .word text ∧ text ≠ "super" := by
      obtain ⟨text, rfl, htext⟩ := exists_startsWord h
      refine ⟨text, rfl, ?_⟩
      rintro rfl
      simp [startsSomeWord, htext] at hahead
    split at h
    case isTrue =>
      obtain ⟨⟨name, left⟩, hread, h⟩ := Option.bind_eq_some_iff.mp h
      obtain ⟨text, rfl, htext⟩ := hname hread
      exact (hnext htext).holds (named_left hts hread) h
    case isFalse =>
      obtain ⟨⟨name, left⟩, hread, h⟩ := Option.bind_eq_some_iff.mp h
      obtain ⟨text, rfl, htext⟩ := hname (anyWord_of_ident hread)
      exact (hnext htext).holds (named_left hts hread) h

theorem path_ensures (inExpr : Bool) : (path sub inExpr).Ensures fun found =>
    ∃ parts, found = .node .path parts ∧ parts.all Tree.isPathPart = true := by
  refine .bind .optionalOp fun colons hcolons => ?_
  refine .bind (.chain_all (by rfl) (segment_ensures inExpr)) fun parts hparts => ?_
  refine .pure ⟨_, rfl, List.all_eq_true.mpr (List.forall_mem_cons.mpr ⟨?_, hparts⟩)⟩
  rcases hcolons with rfl | rfl <;> rfl

/-- A path consists of what paths consist of, or it starts at a type. -/
theorem qualifiedPath_ensures (inExpr : Bool) : (qualifiedPath sub inExpr).Ensures fun found =>
    found.isKind .qualifiedPath = true ∨
      ∃ parts, found = .node .path parts ∧ parts.all Tree.isPathPart = true := by
  refine .after fun ts => .ite (fun _ => (path_ensures inExpr).mono fun _ => .inr) fun _ => ?_
  repeat refine Ensures.after fun _ => ?_
  exact .pure (.inl rfl)

variable [Sound sub]

instance {inExpr : Bool} : (segment sub inExpr).ReadsProper := by delta segment; infer_instance

instance {inExpr : Bool} : (path sub inExpr).ReadsProper := by delta path; infer_instance

instance {inExpr : Bool} : (qualifiedPath sub inExpr).ReadsProper := by
  delta qualifiedPath; infer_instance

/-! ## Attributes -/

instance : (attributeValue sub).ReadsProper := by delta attributeValue; infer_instance

instance : (attributeContent sub).ReadsProper := by
  refine .bind inferInstance fun ts _ => ?_
  -- What follows the path is the same for both kinds of paths.
  split
  all_goals
    refine .bind inferInstance fun path _ => .bind inferInstance fun behind _ => ?_
    split <;> infer_instance

instance : (outerAttribute sub).ReadsProper := by delta outerAttribute; infer_instance

instance : (outerAttributes sub).ReadsProper := by delta outerAttributes; infer_instance

instance : (innerAttributes sub).ReadsProper := by delta innerAttributes; infer_instance

/-! ## Bounds -/

instance {plus : Bool} : (returnType sub plus).ReadsProper := by delta returnType; infer_instance

instance : (parenArguments sub).ReadsProper := by delta parenArguments; infer_instance

/-- A path whose last segment is given arguments stays a path. -/
instance {arguments : Tree} {parts : List Tree} [Proper arguments] [hparts : Proper parts] :
    Proper (setLastArguments arguments (.node .path parts)) := by
  rw [setLastArguments]
  split
  case h_1 name _ before heq =>
    have hreverse : Proper parts.reverse := inferInstance
    rw [heq, Proper.cons_iff, Proper.node_iff, Proper.cons_iff] at hreverse
    obtain ⟨⟨-, hname, -⟩, hbefore⟩ := hreverse
    infer_instance
  case h_2 => infer_instance

instance : (traitPath sub).ReadsProper := by
  -- `setLastArguments` is about paths, so it is needed as well that what is read is a path.
  have hpath : (path sub false).ReadsProper := inferInstance
  refine ⟨.bind ((path_ensures false).and hpath.ensures) ?_⟩
  rintro _ ⟨⟨parts, rfl, -⟩, hfound⟩
  have hparts := (Proper.node_iff.mp hfound).2
  exact (inferInstance : ReadsProper _).ensures

instance : (boundLifetimes sub).ReadsProper := by delta boundLifetimes; infer_instance

instance {attributes : List Tree} [Proper attributes] :
    (lifetimeParam sub attributes).ReadsProper := by delta lifetimeParam; infer_instance

instance {mayBeConst : Bool} : (traitBound sub mayBeConst).ReadsProper := by
  delta traitBound; infer_instance

instance {first second : List Tree} [Proper first] [Proper second] :
    Proper (joinLists first second) := by delta joinLists; infer_instance

theorem proper_splitList (test : Tree → Bool) (items : List Tree) (h : Proper items) :
    Proper (splitList test items) := by
  revert h
  fun_induction splitList test items with
  | case1 => exact fun _ => inferInstance
  | case2 item | case3 item =>
    intro h
    have hitem := (Proper.cons_iff.mp h).1
    infer_instance
  -- Both halves of the rest are proper by induction, and the item goes in front of one of them.
  | case4 item comma rest inside outside heq _ ih | case5 item comma rest inside outside heq _ ih =>
    intro h
    simp only [Proper.cons_iff] at h
    obtain ⟨hitem, hcomma, hrest⟩ := h
    have hsplit := ih hrest
    rw [heq] at hsplit
    obtain ⟨hinside, houtside⟩ := Proper.pair_iff.mp hsplit
    infer_instance

instance {test : Tree → Bool} {items : List Tree} [h : Proper items] :
    Proper (splitList test items) := proper_splitList test items h

instance {test : Tree → Bool} {list : Tree} [Proper list] : Proper (moveToFront test list) := by
  delta moveToFront; infer_instance

instance : preciseCapture.ReadsProper := by delta preciseCapture; infer_instance

instance {mayCapture mayBeConst : Bool} : (bound sub mayCapture mayBeConst).ReadsProper := by
  delta bound; infer_instance

instance {plus isHidden : Bool} : (boundSum sub plus isHidden).ReadsProper := by
  delta boundSum; infer_instance

/-! ## Parameters and arguments -/

instance : (constArgument sub).ReadsProper := by delta constArgument; infer_instance

instance {attributes : List Tree} {name : Tree} [Proper attributes] [Proper name] :
    (typeParamRest sub attributes name).ReadsProper := by delta typeParamRest; infer_instance

instance : (genericParam sub).ReadsProper := by delta genericParam; infer_instance

instance : (generics sub).ReadsProper := by delta generics; infer_instance

instance : (predicate sub).ReadsProper := by delta predicate; infer_instance

instance : (whereClause sub).ReadsProper := by delta whereClause; infer_instance

theorem proper_of_singleName? {type name arguments : Tree} [h : Proper type]
    (hname : singleName? type = some (name, arguments)) : Proper name ∧ Proper arguments := by
  unfold singleName? at hname
  split at hname
  case h_1 =>
    split at hname <;> cases hname
    simp only [Proper.node_iff, Proper.cons_iff] at h
    exact ⟨h.2.1.2.2.1.2.1, h.2.1.2.2.1.2.2.1⟩
  case h_2 => cases hname

instance : (argument sub).ReadsProper := by
  refine .bind inferInstance fun ts _ => ?_
  -- A lifetime, a constant or a type, which may turn out to be the name of a binding.
  split
  case isTrue => infer_instance
  case isFalse =>
    split
    case isTrue => infer_instance
    case isFalse =>
      refine .bind inferInstance fun type htype => ?_
      split
      case h_1 => infer_instance
      case h_2 name arguments heq =>
        obtain ⟨hname, harguments⟩ := proper_of_singleName? heq
        infer_instance

instance : (angleArguments sub).ReadsProper := by delta angleArguments; infer_instance

/-! ## Types -/

instance {trees : List Tree} [h : Proper trees] : Proper (trees.headD .absent) := by
  cases trees with
  | nil => exact inferInstanceAs (Proper Tree.absent)
  | cons => exact (Proper.cons_iff.mp h).1

instance : abi.ReadsProper := by delta abi; infer_instance

instance {attributes : List Tree} {isFirst : Bool} [Proper attributes] :
    (functionArgument sub attributes isFirst).ReadsProper := by
  delta functionArgument; infer_instance

instance {attributes : List Tree} [Proper attributes] :
    (functionVariadic attributes).ReadsProper := by delta functionVariadic; infer_instance

instance : (functionArguments sub).ReadsProper := by delta functionArguments; infer_instance

instance {lifetimes : Tree} [Proper lifetimes] : (typeFunction sub lifetimes).ReadsProper := by
  delta typeFunction; infer_instance

instance {first : Tree} [Proper first] : (boundsAfter sub first).ReadsProper := by
  delta boundsAfter; infer_instance

instance {first : Tree} [Proper first] : (boundsAfterPath sub first).ReadsProper := by
  delta boundsAfterPath; infer_instance

instance {keyword bounds : Tree} [Proper keyword] [Proper bounds] :
    Proper (traitObject keyword bounds) := by delta traitObject; infer_instance

instance {plus isHidden : Bool} : (traitSum sub plus isHidden).ReadsProper := by
  delta traitSum; infer_instance

instance : HoldsTrees Parenthesized where
  trees
    | .tuple content => [content]
    | .single type => [type]
    | .relaxed bound => [bound]

instance {content : Tree} [h : Proper content] : Proper (Parenthesized.tuple content) :=
  ⟨h.isProper⟩

instance {type : Tree} [h : Proper type] : Proper (Parenthesized.single type) := ⟨h.isProper⟩

instance {bound : Tree} [h : Proper bound] : Proper (Parenthesized.relaxed bound) := ⟨h.isProper⟩

instance : (parenthesizedContent sub).ReadsProper := by
  delta parenthesizedContent; infer_instance

theorem proper_of_boundOfParenthesized? {type bound : Tree} (h : Proper type)
    (hbound : boundOfParenthesized? type = some bound) : Proper bound := by
  unfold boundOfParenthesized? at hbound
  split at hbound
  case h_1 children =>
    cases hbound
    simp only [Proper.node_iff, Proper.cons_iff] at h
    -- The path of a type becomes the path of a trait, and its segments stay.
    have hchildren : Proper children := h.2.1.2
    infer_instance
  case h_2 only =>
    simp only [Proper.node_iff, Proper.cons_iff] at h
    have honly : Proper only := h.2.2.1.2.1
    split at hbound
    all_goals
      cases hbound
      infer_instance
  case h_3 => cases hbound

instance {plus : Bool} : (typeParenthesized sub plus).ReadsProper := by
  refine .bind inferInstance fun content hcontent => ?_
  split
  case h_1 elements =>
    have helements : Proper elements := ⟨hcontent.isProper⟩
    infer_instance
  case h_2 bound =>
    have hbound : Proper bound := ⟨hcontent.isProper⟩
    infer_instance
  case h_3 type =>
    have htype : Proper type := ⟨hcontent.isProper⟩
    refine .bind inferInstance fun ts _ => ?_
    split
    case isTrue =>
      split
      case h_1 first heq =>
        have hfirst := proper_of_boundOfParenthesized? htype heq
        infer_instance
      case h_2 => infer_instance
    case isFalse => infer_instance

instance : (typeBracketed sub).ReadsProper := by
  refine .bind inferInstance fun content _ => ?_
  split <;> infer_instance

/-- A path that is a type consists of what paths consist of. -/
instance {lifetimes : Tree} {plus : Bool} [Proper lifetimes] :
    (typeOfPath sub lifetimes plus).ReadsProper := by
  have hpath : (qualifiedPath sub false).ReadsProper := inferInstance
  refine ⟨.bind ((qualifiedPath_ensures false).and hpath.ensures) ?_⟩
  rintro found ⟨hshape, hfound⟩
  refine .ite (fun hkind => ?_) fun hkind => .after fun ts => ?_
  · -- A path that starts at a type is not looked into.
    obtain ⟨parts, rfl⟩ := Tree.exists_of_isKind hkind
    exact .pure (Proper.node_iff.mpr ⟨rfl, inferInstance⟩)
  · obtain ⟨parts, rfl, hparts⟩ := hshape.resolve_left hkind
    have hlast : Proper (Tree.node .typePath [.node .path parts]) :=
      Proper.node_iff.mpr ⟨hparts, inferInstance⟩
    exact (inferInstance : ReadsProper _).ensures

instance {plus : Bool} : (typeDyn sub plus).ReadsProper := by delta typeDyn; infer_instance

instance : builtin.ReadsProper := by delta builtin; infer_instance

instance {plus : Bool} : (type sub plus).ReadsProper := by delta type; infer_instance

/-! ## Patterns -/

instance : position.ReadsProper := by
  refine .token fun t tree h => ?_
  split at h
  case h_1 =>
    obtain ⟨number, -, rfl⟩ := Option.map_eq_some_iff.mp h
    infer_instance
  case h_2 => cases h

instance : member.ReadsProper := by delta member; infer_instance

instance : patternLimits.ReadsProper := by delta patternLimits; infer_instance

instance {attributes : List Tree} [Proper attributes] :
    (constBlock sub attributes).ReadsProper := by delta constBlock; infer_instance

instance : (rangeBound sub).ReadsProper := by delta rangeBound; infer_instance

instance {start : Tree} [Proper start] : (patternRangeRest sub start).ReadsProper := by
  delta patternRangeRest; infer_instance

instance : (patternLiteral sub).ReadsProper := by delta patternLiteral; infer_instance

instance : (patternHalfOpen sub).ReadsProper := by delta patternHalfOpen; infer_instance

instance : (patternIdent sub).ReadsProper := by delta patternIdent; infer_instance

instance : (patternList sub).ReadsProper := by delta patternList; infer_instance

instance : (patternField sub).ReadsProper := by delta patternField; infer_instance

instance : (patternFields sub).ReadsProper := by
  refine .bind inferInstance fun found hfound => ?_
  split
  case h_1 rest before =>
    obtain ⟨hrest, hbefore⟩ := Proper.cons_iff.mp hfound
    infer_instance
  case h_2 => infer_instance

instance : (patternOfPath sub).ReadsProper := by delta patternOfPath; infer_instance

instance : (patternParenthesized sub).ReadsProper := by
  refine .bind inferInstance fun content hcontent => ?_
  split
  case h_1 only =>
    simp only [Proper.group_iff, Proper.node_iff, Proper.cons_iff] at hcontent
    have honly : Proper only := hcontent.1.2.1
    infer_instance
  case h_2 => infer_instance

instance : (patternSlice sub).ReadsProper := by delta patternSlice; infer_instance

instance : (pattern sub).ReadsProper := by delta pattern; infer_instance

instance : (patterns sub).ReadsProper := by
  refine .bind inferInstance fun leading _ => .bind inferInstance fun cases hcases => ?_
  split
  case h_1 only =>
    have honly := (Proper.cons_iff.mp hcases).1
    infer_instance
  case h_2 => infer_instance

end Grammar

end RouteRegistrar
