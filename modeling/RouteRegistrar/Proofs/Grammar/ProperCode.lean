import RouteRegistrar.Grammar.Source
import RouteRegistrar.Proofs.Grammar.Grouping
import RouteRegistrar.Proofs.Grammar.ProperTypes

/-!
# Parsed source is proper

The rules of expressions, statements and items follow from what they are put together from, and only
the rule of a receiver has to do with the shape of a tree. All rules keep trees proper, so a parsed
file is proper, and so are the types of the parameters of its methods.
-/

open RouteRegistrar.Parser

namespace RouteRegistrar

set_option synthInstance.maxSize 100000

namespace Grammar

variable {sub : Goal → Parser Tree} [Sound sub]

/-! ## Accesses and groups -/

instance : (exprList sub).ReadsProper := by delta exprList; infer_instance

theorem proper_positions (found : List Nat) (base : Tree) (hbase : Proper base) :
    Proper (positions base found) := by
  induction found generalizing base with
  | nil => exact hbase
  | cons first rest ih => exact ih _ inferInstance

instance {found : List Nat} {base : Tree} [hbase : Proper base] : Proper (positions base found) :=
  proper_positions found base hbase

instance {base : Tree} [Proper base] : (accessOf sub base).ReadsProper := by
  delta accessOf; infer_instance

instance {base : Tree} [Proper base] : (access sub base).ReadsProper := by
  delta access; infer_instance

instance {base : Tree} [Proper base] : (accesses sub base).ReadsProper := by
  delta accesses; infer_instance

instance : (exprParenthesized sub).ReadsProper := by
  refine .bind inferInstance fun content hcontent => ?_
  split
  case h_1 only =>
    simp only [Proper.group_iff, Proper.node_iff, Proper.cons_iff] at hcontent
    have honly : Proper only := hcontent.1.2.1
    infer_instance
  case h_2 => infer_instance

instance : (exprBracketed sub).ReadsProper := by
  refine .bind inferInstance fun content _ => ?_
  split <;> infer_instance

instance : (fieldValue sub).ReadsProper := by delta fieldValue; infer_instance

instance : (structFields sub).ReadsProper := by delta structFields; infer_instance

instance {structs : Bool} : (exprOfPath sub structs).ReadsProper := by
  delta exprOfPath; infer_instance

/-! ## Closures and control flow -/

instance {attributes : List Tree} {found : Tree} [Proper attributes] [Proper found] :
    Proper (attributedPattern attributes found) := by delta attributedPattern; infer_instance

instance : (closureParameter sub).ReadsProper := by delta closureParameter; infer_instance

instance {structs : Bool} : (exprClosure sub structs).ReadsProper := by
  delta exprClosure; infer_instance

instance : label.ReadsProper := by delta label; infer_instance

instance : (elseBranch sub).ReadsProper := by delta elseBranch; infer_instance

instance : (exprIf sub).ReadsProper := by delta exprIf; infer_instance

instance {name : Tree} [Proper name] : (exprWhile sub name).ReadsProper := by
  delta exprWhile; infer_instance

instance {name : Tree} [Proper name] : (exprForLoop sub name).ReadsProper := by
  delta exprForLoop; infer_instance

instance {name : Tree} [Proper name] : (exprLoop sub name).ReadsProper := by
  delta exprLoop; infer_instance

instance : (arm sub).ReadsProper := by delta arm; infer_instance

instance : (exprMatch sub).ReadsProper := by delta exprMatch; infer_instance

instance {kind : Kind} {keyword : String} {attributes : Bool} [Holds (Tree.isFree kind)] :
    (keywordBlock sub kind keyword attributes).ReadsProper := by
  delta keywordBlock; infer_instance

instance : (exprLabelled sub).ReadsProper := by delta exprLabelled; infer_instance

instance {structs : Bool} : (exprBreak sub structs).ReadsProper := by
  delta exprBreak; infer_instance

instance {kind : Kind} {keyword : String} [Holds (Tree.isFree kind)] :
    (exprWithValue sub kind keyword).ReadsProper := by delta exprWithValue; infer_instance

instance {structs : Bool} : (exprLet sub structs).ReadsProper := by delta exprLet; infer_instance

instance : rangeLimits.ReadsProper := by delta rangeLimits; infer_instance

/-! ## Expressions -/

instance {limits : Tree} {structs : Bool} {rhs : Parser Tree} [rhs.ReadsProper] :
    (rangeEnd limits structs rhs).ReadsProper := by delta rangeEnd; infer_instance

instance {structs : Bool} {precedence : Precedence} :
    (rightSide sub structs precedence).ReadsProper := by delta rightSide; infer_instance

instance {structs : Bool} : (openRange sub structs).ReadsProper := by
  delta openRange; infer_instance

instance {structs : Bool} : (atom sub structs).ReadsProper := by delta atom; infer_instance

instance {structs : Bool} : (unary sub structs).ReadsProper := by delta unary; infer_instance

instance {lhs : Tree} {structs : Bool} {base : Precedence} [Proper lhs] :
    (continued sub lhs structs base).ReadsProper := by
  refine .iterate inferInstance fun found hfound => .bind inferInstance fun ts _ => ?_
  split
  case isTrue => infer_instance
  case isFalse =>
    -- An operator comes next, or something else that may follow an expression.
    split <;> infer_instance

instance {structs : Bool} : (expr sub structs).ReadsProper := by delta expr; infer_instance

instance : (earlyExpr sub).ReadsProper := by delta earlyExpr; infer_instance

/-! ## Statements -/

mutual

theorem proper_addToLeftmost {attributes : List Tree} (hattributes : Proper attributes) :
    ∀ tree, Proper tree → Proper (addToLeftmost attributes tree)
  | .node kind children, h => by
    rw [addToLeftmost]
    split
    case isTrue hkind =>
      have hsecond := proper_addToSecond hattributes children (Proper.node_iff.mp h).2
      refine Proper.node_iff.mpr ⟨Tree.hasShape_of_isFree ?_, hsecond⟩
      simp only [Bool.or_eq_true, decide_eq_true_eq] at hkind
      rcases hkind with (rfl | rfl) | rfl <;> rfl
    case isFalse => infer_instance
  | .word _, h | .op _, h | .literal _, h | .lifetime _, h | .tokens _, h | .group _ _, h => h

theorem proper_addToSecond {attributes : List Tree} (hattributes : Proper attributes) :
    ∀ trees, Proper trees → Proper (addToSecond attributes trees)
  | own :: left :: rest, h => by
    simp only [Proper.cons_iff] at h
    obtain ⟨hown, hleft, hrest⟩ := h
    have hadded := proper_addToLeftmost hattributes left hleft
    rw [addToSecond]
    infer_instance
  | [_], h | [], h => h

end

instance {attributes : List Tree} {tree : Tree} [hattributes : Proper attributes]
    [h : Proper tree] : Proper (addToLeftmost attributes tree) :=
  proper_addToLeftmost hattributes tree h

instance {attributes : List Tree} [Proper attributes] : (stmtLet sub attributes).ReadsProper := by
  delta stmtLet; infer_instance

instance {attributes : List Tree} [Proper attributes] : (stmtExpr sub attributes).ReadsProper := by
  refine .bind inferInstance fun value hvalue => .bind inferInstance fun semicolon _ => ?_
  have hfound : Proper (addToLeftmost attributes value) := inferInstance
  split
  case h_1 own call heq =>
    rw [heq] at hfound ⊢
    simp only [Proper.node_iff, Proper.cons_iff] at hfound
    obtain ⟨-, hown, hcall, -⟩ := hfound
    infer_instance
  case h_2 => infer_instance

/-! ## Signatures -/

instance : restriction.ReadsProper := by delta restriction; infer_instance

instance : visibility.ReadsProper := by
  refine .bind inferInstance fun ts _ => ?_
  split
  case isTrue => infer_instance
  case isFalse =>
    refine .bind inferInstance fun keyword _ => .bind inferInstance fun behind _ => ?_
    split <;> infer_instance

/-- A receiver has a type only behind a colon. -/
instance {attributes : List Tree} [Proper attributes] : (receiver sub attributes).ReadsProper := by
  refine .bind inferInstance fun reference _ => .bind inferInstance fun name _ =>
    .bind inferInstance fun mutability _ => .bind inferInstance fun self _ => ?_
  have hrest (colon : Tree) (hcolon : colon = .op ":" ∨ colon = .absent) : (do
      return .node .receiver [.node .attributes attributes, reference, name, mutability, self,
        colon, ← follow colon (sub (.type true))] : Parser Tree).Ensures Proper := by
    rcases hcolon with rfl | rfl
    · have htype : (sub (.type true)).ReadsProper := inferInstance
      exact .bind htype.ensures fun type _ => .pure (Proper.node_iff.mpr ⟨rfl, inferInstance⟩)
    · -- Nothing is read for a type without a colon.
      exact .pure (Proper.node_iff.mpr ⟨rfl, inferInstance⟩)
  exact ⟨.ite (fun _ => .bind .optionalOp hrest) fun _ => .bind (.pure (.inr rfl)) hrest⟩

instance {attributes : List Tree} {pattern colon : Tree} [Proper attributes] [Proper pattern]
    [Proper colon] : (variadic attributes pattern colon).ReadsProper := by
  delta variadic; infer_instance

instance {attributes : List Tree} [Proper attributes] :
    (typedParameter sub attributes).ReadsProper := by delta typedParameter; infer_instance

instance {isFirst : Bool} : (parameter sub isFirst).ReadsProper := by
  delta parameter; infer_instance

instance : (parameters sub).ReadsProper := by delta parameters; infer_instance

instance {safety : Parser Tree} [safety.ReadsProper] : (signatureWith sub safety).ReadsProper := by
  delta signatureWith; infer_instance

instance : (signature sub).ReadsProper := by delta signature; infer_instance

/-! ## Items -/

instance : rename.ReadsProper := by delta rename; infer_instance

instance {root : Bool} : (useGroup sub root).ReadsProper := by delta useGroup; infer_instance

instance {root : Bool} : (useTree sub root).ReadsProper := by delta useTree; infer_instance

instance {start : List Token} : (itemUse sub start).ReadsProper := by delta itemUse; infer_instance

instance : itemExternCrate.ReadsProper := by delta itemExternCrate; infer_instance

instance : constName.ReadsProper := by delta constName; infer_instance

instance {start : List Token} : (itemFn sub start).ReadsProper := by delta itemFn; infer_instance

instance {start : List Token} {kind : Kind} {front : List Tree} {mayBeOpen : Bool}
    [Holds (Tree.isFree kind)] [Proper front] :
    (constRest sub start kind front mayBeOpen).ReadsProper := by delta constRest; infer_instance

instance {start : List Token} : (itemStatic sub start).ReadsProper := by
  delta itemStatic; infer_instance

instance : HoldsTrees TypeItem where
  trees t := [t.keyword, t.name, t.generics, t.colon, t.bounds, t.equals, t.value, t.conditions,
    t.semicolon]

theorem proper_typeItem_iff {t : TypeItem} : Proper t ↔ Proper t.keyword ∧ Proper t.name ∧
    Proper t.generics ∧ Proper t.colon ∧ Proper t.bounds ∧ Proper t.equals ∧ Proper t.value ∧
    Proper t.conditions ∧ Proper t.semicolon := by
  have htrees : Proper t ↔ ∀ tree ∈ HoldsTrees.trees t, tree.IsProper :=
    ⟨fun h => h.isProper, fun h => ⟨h⟩⟩
  rw [htrees]
  simp only [HoldsTrees.trees, List.forall_mem_cons, Proper.tree_iff, List.not_mem_nil,
    false_implies, implies_true, and_true]

instance {keyword name params colon bounds equals value conditions semicolon : Tree}
    [Proper keyword] [Proper name] [Proper params] [Proper colon] [Proper bounds] [Proper equals]
    [Proper value] [Proper conditions] [Proper semicolon] : Proper (TypeItem.mk keyword name params
      colon bounds equals value conditions semicolon) :=
  proper_typeItem_iff.mpr ⟨‹_›, ‹_›, ‹_›, ‹_›, ‹_›, ‹_›, ‹_›, ‹_›, ‹_›⟩

instance {place : WherePlace} : (typeItem sub place).ReadsProper := by
  delta typeItem; infer_instance

instance {start : List Token} : (itemType sub start).ReadsProper := by
  refine .bind inferInstance fun visible _ => .bind inferInstance fun t ht => ?_
  obtain ⟨_, _, _, _, _, _, _, _, _⟩ := proper_typeItem_iff.mp ht
  infer_instance

instance {fields : Parser Tree} {unnamed : Bool} [fields.ReadsProper] :
    (fieldType sub fields unnamed).ReadsProper := by delta fieldType; infer_instance

instance {fields : Parser Tree} [fields.ReadsProper] : (namedField sub fields).ReadsProper := by
  delta namedField; infer_instance

theorem readsProper_fieldsNamed (depth : Nat) : (fieldsNamed sub depth).ReadsProper := by
  induction depth with
  | zero => exact inferInstanceAs (failure : Parser Tree).ReadsProper
  | succ depth ih => rw [fieldsNamed]; infer_instance

instance {depth : Nat} : (fieldsNamed sub depth).ReadsProper := readsProper_fieldsNamed depth

instance : (namedFields sub).ReadsProper := by delta namedFields; infer_instance

instance : (unnamedFields sub).ReadsProper := by delta unnamedFields; infer_instance

instance : (itemStruct sub).ReadsProper := by delta itemStruct; infer_instance

instance : (enumVariant sub).ReadsProper := by delta enumVariant; infer_instance

instance : (itemEnum sub).ReadsProper := by delta itemEnum; infer_instance

instance : (itemUnion sub).ReadsProper := by delta itemUnion; infer_instance

instance {member : Parser Tree} [member.ReadsProper] : (itemsInBraces sub member).ReadsProper := by
  delta itemsInBraces; infer_instance

instance : (itemMod sub).ReadsProper := by delta itemMod; infer_instance

instance {mayBeConst : Bool} {stop : List Token → Bool} :
    (boundsUntil sub mayBeConst stop).ReadsProper := by delta boundsUntil; infer_instance

instance {front : List Tree} [Proper front] : (traitRest sub front).ReadsProper := by
  delta traitRest; infer_instance

instance {mayBeAlias : Bool} : (itemTrait sub mayBeAlias).ReadsProper := by
  delta itemTrait; infer_instance

instance {start : List Token} : (itemImpl sub start).ReadsProper := by
  delta itemImpl
  repeat' first
    | refine .bind inferInstance fun _ _ => ?_
    | refine .ite ?_ ?_
    | infer_instance
    | fail
  -- What is left are the ends of the rule, where the trait is the path of the first type.
  all_goals
    dsimp only
    split
    case isTrue =>
      split
      case h_1 hfirst =>
        have hpath := (Proper.cons_iff.mp (Proper.node_iff.mp hfirst).2).1
        infer_instance
      case h_2 => infer_instance
    case isFalse => infer_instance

instance : (itemForeignMod sub).ReadsProper := by delta itemForeignMod; infer_instance

instance {braces : Bool} : (macroEnd braces).ReadsProper := by delta macroEnd; infer_instance

instance : itemMacro.ReadsProper := by delta itemMacro; infer_instance

instance {start : List Token} : (macroDefinition start).ReadsProper := by
  delta macroDefinition; infer_instance

instance {behind : List Token} : (itemExtern sub behind).ReadsProper := by
  delta itemExtern; infer_instance

instance {start behind : List Token} : (itemUnsafe sub start behind).ReadsProper := by
  delta itemUnsafe; infer_instance

instance {start : List Token} {attributes : List Tree} [Proper attributes] :
    (itemRest sub start attributes).ReadsProper := by
  refine .bind inferInstance fun here _ => ?_
  -- What is found ahead is only tested.
  split
  case h_1 => exact .after fun seen => inferInstance
  case h_2 => infer_instance

instance : (item sub).ReadsProper := by delta item; infer_instance

/-! ## Members -/

instance : memberMacro.ReadsProper := by delta memberMacro; infer_instance

instance {start : List Token} : (implFn sub start).ReadsProper := by delta implFn; infer_instance

instance {start : List Token} : (implType sub start).ReadsProper := by
  refine .bind inferInstance fun visible _ => .bind inferInstance fun defaultness _ =>
    .bind inferInstance fun t ht => ?_
  obtain ⟨_, _, _, _, _, _, _, _, _⟩ := proper_typeItem_iff.mp ht
  infer_instance

instance : (implItem sub).ReadsProper := by
  -- What has been seen of a member only decides how to read it.
  refine .bind inferInstance fun start _ => .bind inferInstance fun attributes _ =>
    .bind inferInstance fun here _ => ?_
  split
  case h_1 => exact .after fun seen => inferInstance
  case h_2 => infer_instance

instance : (traitFn sub).ReadsProper := by delta traitFn; infer_instance

instance {start : List Token} : (traitType sub start).ReadsProper := by
  refine .bind inferInstance fun visible _ => .bind inferInstance fun t ht => ?_
  obtain ⟨_, _, _, _, _, _, _, _, _⟩ := proper_typeItem_iff.mp ht
  infer_instance

instance : (traitItem sub).ReadsProper := by delta traitItem; infer_instance

instance {start : List Token} : (foreignFn sub start).ReadsProper := by
  delta foreignFn; infer_instance

instance {start : List Token} : (foreignStatic sub start).ReadsProper := by
  delta foreignStatic; infer_instance

instance {start : List Token} : (foreignType sub start).ReadsProper := by
  refine .bind inferInstance fun visible _ => .bind inferInstance fun t ht => ?_
  obtain ⟨_, _, _, _, _, _, _, _, _⟩ := proper_typeItem_iff.mp ht
  infer_instance

instance : (foreignItem sub).ReadsProper := by
  refine .bind inferInstance fun start _ => .bind inferInstance fun attributes _ =>
    .bind inferInstance fun here _ => ?_
  split
  case h_1 => exact .after fun seen => inferInstance
  case h_2 => infer_instance

/-! ## Blocks -/

instance : (statement sub).ReadsProper := by
  refine .bind inferInstance fun start _ => .bind inferInstance fun attributes _ =>
    .bind inferInstance fun ts _ => ?_
  split <;> infer_instance

instance : (statements sub).ReadsProper := by delta statements; infer_instance

instance {attributes : Bool} : (block sub attributes).ReadsProper := by
  delta block; infer_instance

/-! ## Source -/

instance {goal : Goal} [h : Proper goal] : (rule sub goal).ReadsProper := by
  -- Only the goal of a chain of operators comes with a tree that has been read before.
  cases goal with
  | continued lhs structs base =>
    have hlhs : Proper lhs := ⟨h.isProper⟩
    rw [rule]
    infer_instance
  | _ =>
    rw [rule]
    infer_instance

theorem sound_derive (fuel : Nat) : Sound (derive fuel) := by
  -- With one more step, each goal is read by its rule, and its parts with the steps before.
  induction fuel with
  | zero => exact ⟨fun goal _ => inferInstanceAs (failure : Parser Tree).ReadsProper⟩
  | succ fuel ih => exact ⟨fun goal _ => inferInstanceAs (rule (derive fuel) goal).ReadsProper⟩

instance {fuel : Nat} : Sound (derive fuel) := sound_derive fuel

instance : (file sub).ReadsProper := by delta file; infer_instance

end Grammar

/-! ## Parentheses around ranges -/

namespace Tree

theorem isMissing_grouped (tree : Tree) (h : tree.isMissing = true) :
    tree.grouped.isMissing = true := by
  obtain rfl := eq_absent_of_isMissing h
  rfl

theorem isPathPart_grouped (part : Tree) (h : part.isPathPart = true) :
    part.grouped.isPathPart = true := by
  rcases isPathPart_cases h with ⟨text, rfl⟩ | rfl | ⟨segment, rfl, hsuper⟩
  · rfl
  · rfl
  · rw [namedSegment, Grammar.grouped_node (by decide)]
    -- Only behind `super` are the arguments looked at, and there they are missing.
    by_cases hname : segment.1 = "super"
    · rw [hsuper hname]
      simp [grouped, groupRange, groupedAll, isPathPart, isMissing, absent]
    · simp [grouped, isPathPart, hname]

theorem isAbsent_grouped (tree : Tree) : tree.grouped.isAbsent = tree.isAbsent := by
  rw [isAbsent_eq_isKind, isAbsent_eq_isKind, Grammar.isKind_grouped .absent tree (by decide)
    (by decide)]

theorem hasShape_grouped {kind : Kind} {children : List Tree}
    (h : (node kind children).hasShape = true) :
    (node kind (children.map grouped)).hasShape = true := by
  unfold hasShape at h
  split at h
  case h_1 heq =>
    cases heq
    rw [List.map_singleton, Grammar.grouped_node (by decide), hasShape, List.all_map]
    exact List.all_eq_true.mpr fun part hpart =>
      isPathPart_grouped part (List.all_eq_true.mp h part hpart)
  case h_2 colon type heq =>
    cases heq
    simp only [List.map_cons, List.map_nil, hasShape, isAbsent_grouped, Bool.or_eq_true,
      Bool.and_eq_true] at h ⊢
    exact h.imp id fun h => ⟨isMissing_grouped colon h.1, isMissing_grouped type h.2⟩
  case h_3 hpath hreceiver =>
    -- A tree without one of the two shapes does not get it.
    unfold hasShape
    split
    case h_1 parts heq =>
      injection heq with hkind hchildren
      obtain ⟨child, rfl, hchild⟩ := List.map_eq_singleton_iff.mp hchildren
      have hchild : child.isKind .path = true := by
        rw [← Grammar.isKind_grouped .path child (by decide) (by decide), hchild]
        rfl
      obtain ⟨_, rfl⟩ := exists_of_isKind hchild
      exact absurd (congrArg (node · _) hkind) (hpath _)
    case h_2 heq =>
      injection heq with hkind hchildren
      simp only [List.map_eq_cons_iff, List.map_eq_nil_iff] at hchildren
      obtain ⟨_, _, rfl, -, _, _, rfl, -, _, _, rfl, -, _, _, rfl, -, _, _, rfl, -, _, _, rfl, -, _,
        _, rfl, -, rfl⟩ := hchildren
      exact absurd (congrArg (node · _) hkind) (hreceiver _ _ _ _ _ _ _)
    case h_3 => rfl

instance {tree : Tree} [h : Proper tree] : Proper (groupRange tree) := by
  unfold groupRange
  split
  case h_1 first more parts =>
    simp only [Proper.node_iff, Proper.cons_iff] at h
    obtain ⟨-, ⟨-, hfirst, hmore⟩, hparts⟩ := h
    infer_instance
  case h_2 => exact h

/-- Parentheses around ranges change no type. -/
theorem IsProper.grouped {tree : Tree} (h : tree.IsProper) : tree.grouped.IsProper := by
  induction tree using inductionOn with
  | leaf tree hleaf =>
    cases tree with
    | node | group => cases hleaf
    | _ => exact h
  | group delimiter content ih =>
    rw [Grammar.grouped_group, isProper_group_iff, List.forall_mem_map]
    exact fun tree htree => ih tree htree (h.of_mem_group htree)
  | node kind children ih =>
    -- The children are grouped first, which leaves the node its shape.
    have hnode : Proper (node kind (children.map Tree.grouped)) := by
      refine Proper.node_iff.mpr ⟨hasShape_grouped h.hasShape, Proper.forall_iff.mpr ?_⟩
      exact List.forall_mem_map.mpr fun tree htree => ih tree htree (h.of_mem_node htree)
    -- Then the node gets parentheses if it is a range, by `groupRange`.
    rw [Tree.grouped, Grammar.groupedAll_eq_map]
    exact Proper.tree_iff.mp inferInstance

end Tree

/-! ## Parsed texts -/

namespace Grammar

theorem isProper_of_parseAll {parser : (Goal → Parser Tree) → Parser Tree} {ts : List Token}
    {tree : Tree} (hts : ∀ t ∈ ts, t.Named)
    (hparser : (parser (derive (fuelFor ts))).ReadsProper) (h : parseAll parser ts = some tree) :
    tree.IsProper := by
  unfold parseAll at h
  split at h
  case h_1 found hfound =>
    cases h
    exact (Proper.tree_iff.mp (hparser.ensures.holds hts hfound)).grouped
  case h_2 => cases h

/-- The tree of a source text is proper. -/
theorem isProper_of_ofSource? {text : String} {tree : Tree} (h : ofSource? text = some tree) :
    tree.IsProper := by
  obtain ⟨ts, hts, htree⟩ := Option.bind_eq_some_iff.mp h
  exact isProper_of_parseAll (Token.named_of_tokenize hts) inferInstance htree

/-- The tree of a single item is proper. -/
theorem isProper_of_itemOfText? {text : String} {tree : Tree} (h : itemOfText? text = some tree) :
    tree.IsProper := by
  obtain ⟨ts, hts, htree⟩ := Option.bind_eq_some_iff.mp h
  exact isProper_of_parseAll (Token.named_of_tokenize hts) inferInstance htree

end Grammar

end RouteRegistrar
