import RouteRegistrar.Grammar.Source
import RouteRegistrar.Proofs.Grammar.Grouping
import RouteRegistrar.Proofs.Grammar.Parser

/-!
# Shapes of items

What a parser builds for an `impl` block has the children that its kind asks for: a block ends in
its members, a method ends in the statements of its body, and the path of an attribute ends in a
name. Items and members of another kind are not looked into.
-/

namespace RouteRegistrar.Grammar

open RouteRegistrar.Parser Text

/-! ## Shapes -/

/-- A path whose last segment is a name. -/
inductive EndsInName : Tree → Prop where
  | intro {parts : List Tree} {name : String} :
      (Tree.node .path parts).pathNames.getLast? = some name → IsName name →
      EndsInName (.node .path parts)

/-- What stands in the brackets of an attribute begins with a path. -/
inductive IsContent : Tree → Prop where
  | intro {kind : Kind} {path : Tree} {rest : List Tree} : kind ≠ .exprRange → EndsInName path →
      IsContent (.node kind (path :: rest))

/-- An attribute. -/
inductive IsAttribute : Tree → Prop where
  | intro {pound bang content : Tree} : IsContent content →
      IsAttribute (.node .singleAttribute [pound, bang, .group .bracket [content]])

/-- Statements in braces, behind the attributes of what the block belongs to. -/
inductive IsBody : Tree → Prop where
  | intro {inner statements : List Tree} : (∀ found ∈ inner, IsAttribute found) →
      IsBody (.node .block [.group .brace (.node .attributes inner :: statements)])

/-- A member of an `impl` block. A method has attributes in front of it and a body. -/
inductive IsMember : Tree → Prop where
  | method {outer : List Tree} {visible defaultness sig body : Tree} :
      (∀ found ∈ outer, IsAttribute found) → IsBody body →
      IsMember (.node .implFn [.node .attributes outer, visible, defaultness, sig, body])
  | other {tree : Tree} : tree.isKind .implFn = false → IsMember tree

/-- An item. An `impl` block ends in its members, behind the attributes at the beginning of its
body. -/
inductive IsItem : Tree → Prop where
  | block {attributes defaultness safety keyword params implemented type conditions own : Tree}
      {members : List Tree} : (∀ member ∈ members, IsMember member) →
      IsItem (.node .itemImpl [attributes, defaultness, safety, keyword, params, implemented, type,
        conditions, .group .brace (own :: members)])
  | other {tree : Tree} : tree.isKind .itemImpl = false → IsItem tree

/-! ## Attributes -/

theorem pathNames_append (front back : List Tree) : (Tree.node .path (front ++ back)).pathNames =
    (Tree.node .path front).pathNames ++ (Tree.node .path back).pathNames := by
  simp [Tree.pathNames, segments, Tree.children]

theorem endsInName_concat (front : List Tree) {name : String} (hname : IsName name) :
    EndsInName (.node .path (front ++ [plainSegment (.word name)])) := by
  refine .intro ?_ hname
  rw [pathNames_append]
  exact List.getLast?_concat

theorem modulePath_ensures : modulePath.Ensures EndsInName := by
  -- The last segment decides, and it is a name like the others.
  have hsegment : (do
      require (startsPathName (← ahead))
      return plainSegment (← anyWord) : Parser Tree).Ensures fun segment =>
        ∃ name, segment = plainSegment (.word name) ∧ IsName name := by
    refine .after fun _ => .after fun _ => .bind .anyWord ?_
    rintro _ ⟨name, rfl, hname⟩
    exact .pure ⟨name, rfl, hname⟩
  refine .after fun colons => .bind (.chain hsegment) ?_
  rintro _ ⟨front, _, rfl, name, rfl, hname⟩
  exact .pure (endsInName_concat (colons :: front) hname)

section

variable (sub : Goal → Parser Tree)

theorem attributeContent_ensures : (attributeContent sub).Ensures IsContent := by
  have hunsafe : (plainPath <$> anyWord).Ensures EndsInName := by
    refine .bind .anyWord ?_
    rintro _ ⟨name, rfl, hname⟩
    exact .pure (endsInName_concat [.absent] hname)
  refine .after fun ts => .ite (fun _ => .bind hunsafe ?_) fun _ => .bind modulePath_ensures ?_
  -- What follows the path is the same for both kinds of paths.
  all_goals
    intro path hpath
    refine .after fun behind => ?_
    split
    case h_1 => exact .after fun group => .pure (.intro nofun hpath)
    case h_2 =>
      refine .ite (fun _ => ?_) fun _ => .pure (.intro nofun hpath)
      exact .after fun equals => .after fun value => .pure (.intro nofun hpath)

theorem brackets_ensure : (within .bracket do
    return [← attributeContent sub]).Ensures fun content =>
      ∀ pound bang, IsAttribute (.node .singleAttribute [pound, bang, content]) := by
  have hsingle : (do return [← attributeContent sub] : Parser (List Tree)).Ensures fun content =>
      ∃ one, content = [one] ∧ IsContent one :=
    .bind (attributeContent_ensures sub) fun one hone => .pure ⟨one, rfl, hone⟩
  refine (Ensures.within .bracket hsingle).mono ?_
  rintro _ ⟨_, rfl, one, rfl, hone⟩ pound bang
  exact .intro hone

theorem outerAttributes_ensure :
    (outerAttributes sub).Ensures fun found => ∀ one ∈ found, IsAttribute one :=
  .many (.after fun pound => .bind (brackets_ensure sub) fun _ hcontent => .pure (hcontent pound _))

theorem innerAttributes_ensure : (innerAttributes sub).Ensures fun found =>
    ∃ inner, found = .node .attributes inner ∧ ∀ one ∈ inner, IsAttribute one := by
  refine .bind (.many ?_) fun inner hinner => .pure ⟨inner, rfl, hinner⟩
  exact .after fun pound => .after fun bang =>
    .bind (brackets_ensure sub) fun _ hcontent => .pure (hcontent pound bang)

/-- What stands in braces begins with the attributes of what the braces belong to. -/
theorem braces_ensure {parser : Parser (List Tree)} {found : Tree → Prop}
    (h : parser.Ensures fun trees => ∀ tree ∈ trees, found tree) :
    (do
      let own ← innerAttributes sub
      return own :: (← parser) : Parser (List Tree)).Ensures fun content =>
        ∃ inner rest, content = .node .attributes inner :: rest ∧
          (∀ one ∈ inner, IsAttribute one) ∧ ∀ tree ∈ rest, found tree := by
  refine .bind (innerAttributes_ensure sub) ?_
  rintro _ ⟨inner, rfl, hinner⟩
  exact .bind h fun rest hrest => .pure ⟨inner, rest, rfl, hinner, hrest⟩

/-! ## Kinds of items and members -/

/-- Neither an `impl` block nor a method. -/
def IsOther (tree : Tree) : Prop := tree.isKind .itemImpl = false ∧ tree.isKind .implFn = false

theorem IsOther.isMember {tree : Tree} (h : IsOther tree) : IsMember tree := .other h.2

theorem IsOther.isItem {tree : Tree} (h : IsOther tree) : IsItem tree := .other h.1

theorem since_ensures (start : List Token) : (since start).Ensures IsOther :=
  .after fun _ => .pure ⟨rfl, rfl⟩

/-- Every end of the rule of a constant is plain tokens or a node of the kind that it is given. -/
theorem constRest_ensures (start : List Token) (kind : Kind) (front : List Tree)
    (mayBeOpen : Bool) (hblock : kind ≠ .itemImpl) (hmethod : kind ≠ .implFn) :
    (constRest sub start kind front mayBeOpen).Ensures IsOther := by
  have hnode (children : List Tree) : IsOther (.node kind children) := by
    simp [IsOther, Tree.isKind, Tree.kind?, hblock, hmethod]
  repeat refine Ensures.after fun _ => ?_
  exact .ite (fun _ => since_ensures start) fun _ => .pure (hnode _)

/-- Every end of the other rules is plain tokens or a node of a kind of its own. -/
theorem otherRules_ensure (start : List Token) : ∀ parser ∈ [
    itemFn sub start, itemExternCrate, itemForeignMod sub, itemUse sub start, itemStatic sub start,
    itemMod sub, itemType sub start, itemStruct sub, itemEnum sub, itemUnion sub,
    itemTrait sub true, itemTrait sub false, macroDefinition start, itemMacro, implType sub start,
    memberMacro], parser.Ensures IsOther := by
  simp only [List.forall_mem_cons, List.not_mem_nil, false_implies, implies_true, and_true]
  and_intros
  -- What a rule has read in between has no influence on the kind of its end.
  all_goals
    repeat' first
      | exact Ensures.pure ⟨rfl, rfl⟩
      | exact since_ensures start
      | refine Ensures.ite (fun _ => ?_) fun _ => ?_
      | refine Ensures.after fun _ => ?_

end

/-! ## More attributes in front -/

theorem isKind_addAttributes (attributes : List Tree) (tree : Tree) (kind : Kind) :
    (addAttributes attributes tree).isKind kind = tree.isKind kind := by
  unfold addAttributes
  split <;> rfl

theorem IsMember.addAttributes {attributes : List Tree} {member : Tree}
    (h : ∀ found ∈ attributes, IsAttribute found) (hmember : IsMember member) :
    IsMember (addAttributes attributes member) := by
  cases hmember with
  | method houter hbody =>
    exact .method (List.forall_mem_append.mpr ⟨h, houter⟩) hbody
  | other hother => exact .other ((isKind_addAttributes ..).trans hother)

theorem IsItem.addAttributes (attributes : List Tree) {item : Tree} (hitem : IsItem item) :
    IsItem (addAttributes attributes item) := by
  cases hitem with
  | block hmembers =>
    -- The attributes are the first child, and the shape says nothing about that one.
    unfold Grammar.addAttributes
    split
    case h_1 heq =>
      cases heq
      exact .block hmembers
    case h_2 => exact .block hmembers
  | other hother => exact .other ((isKind_addAttributes ..).trans hother)

/-! ## Members and items -/

section

variable (fuel : Nat)

/-- The body of a method begins with attributes. -/
theorem block_ensures : (derive fuel (.block true)).Ensures IsBody := by
  cases fuel with
  | zero => exact .failure
  | succ fuel =>
    have hstatements : (statements (derive fuel)).Ensures fun trees => ∀ tree ∈ trees, True :=
      .mono (.trivial _) fun _ _ _ _ => True.intro
    refine .bind (.within .brace (braces_ensure (derive fuel) hstatements)) ?_
    rintro _ ⟨_, rfl, inner, rest, rfl, hinner, -⟩
    exact .pure (.intro hinner)

theorem implFn_ensures (start : List Token) : (implFn (derive fuel) start).Ensures IsMember := by
  refine .after fun visible => .after fun defaultness => .after fun sig => .after fun ts =>
    .ite (fun _ => ?_) fun _ => ?_
  · exact .after fun semicolon => (since_ensures start).mono fun _ => IsOther.isMember
  · exact .bind (block_ensures fuel) fun body hbody => .pure (.method nofun hbody)

theorem implItem_ensures : (derive fuel .implItem).Ensures IsMember := by
  cases fuel with
  | zero => exact .failure
  | succ fuel =>
    refine .after fun start => .bind (outerAttributes_ensure _) fun attributes hattributes =>
      .after fun here => ?_
    have hadd {parser : Parser Tree} (h : parser.Ensures IsMember) :
        (do return addAttributes attributes (← parser)).Ensures IsMember :=
      .bind h fun member hmember => .pure (hmember.addAttributes hattributes)
    have hother {parser : Parser Tree} (h : parser.Ensures IsOther) :
        (do return addAttributes attributes (← parser)).Ensures IsMember :=
      hadd (h.mono fun _ => IsOther.isMember)
    have hconst (front : List Tree) :=
      hother (constRest_ensures (derive fuel) start .implConst front false nofun nofun)
    have hrules := otherRules_ensure (derive fuel) start
    -- Without a visibility that can be read there is no member at all.
    split
    case h_1 found _ =>
      refine .after fun _ => .ite (fun _ => hadd (implFn_ensures fuel start)) fun _ => ?_
      refine .ite (fun _ => .after fun visible => ?_) fun _ => ?_
      · exact .ite (fun _ => .after fun _ => hconst _) fun _ => .after fun _ => hconst _
      · exact .ite (fun _ => hother (hrules _ (by simp))) fun _ =>
          .after fun _ => hother (hrules _ (by simp))
    case h_2 => exact .failure_bind

theorem itemImpl_ensures (start : List Token) : (itemImpl (derive fuel) start).Ensures IsItem := by
  have hmembers : (all (derive fuel .implItem)).Ensures fun members =>
      ∀ member ∈ members, IsMember member := .many (implItem_ensures fuel)
  have hbody := Ensures.within .brace (braces_ensure (derive fuel) hmembers)
  -- Only the members and what is made of them matter, not the parts in front of them.
  repeat' first
    | refine Ensures.bind hbody ?_
    | refine Ensures.ite (fun _ => ?_) fun _ => ?_
    | refine Ensures.after fun _ => ?_
  all_goals
    rintro _ ⟨_, rfl, inner, members, rfl, -, hmembers⟩
    refine .ite (fun _ => ?_) fun _ => .pure (.block hmembers)
    exact (since_ensures start).mono fun _ => IsOther.isItem

theorem itemExtern_ensures (sub : Goal → Parser Tree) (behind : List Token) :
    (itemExtern sub behind).Ensures IsOther := by
  have hrules := otherRules_ensure sub []
  exact .ite (fun _ => hrules _ (by simp)) fun _ => .after fun _ => hrules _ (by simp)

theorem itemUnsafe_ensures (start behind : List Token) :
    (itemUnsafe (derive fuel) start behind).Ensures IsItem := by
  have hrules (parser : Parser Tree) (h : parser ∈ _) : parser.Ensures IsItem :=
    (otherRules_ensure (derive fuel) start parser h).mono fun _ => IsOther.isItem
  refine .ite (fun _ => hrules _ (by simp)) fun _ => ?_
  refine .ite (fun _ => itemImpl_ensures fuel start) fun _ => ?_
  exact .ite (fun _ => hrules _ (by simp)) fun _ => .after fun _ => hrules _ (by simp)

theorem item_ensures : (derive fuel .item).Ensures IsItem := by
  cases fuel with
  | zero => exact .failure
  | succ fuel =>
    refine .after fun start => .after fun attributes => .after fun here => ?_
    have hadd {parser : Parser Tree} (h : parser.Ensures IsItem) :
        (do return addAttributes attributes (← parser)).Ensures IsItem :=
      .bind h fun item hitem => .pure (hitem.addAttributes attributes)
    have hother {parser : Parser Tree} (h : parser.Ensures IsOther) :
        (do return addAttributes attributes (← parser)).Ensures IsItem :=
      hadd (h.mono fun _ => IsOther.isItem)
    have hconst (front : List Tree) :=
      hother (constRest_ensures (derive fuel) start .itemConst front false nofun nofun)
    have hrules := otherRules_ensure (derive fuel) start
    split
    case h_1 found _ =>
      refine .after fun _ => ?_
      -- Each branch is one of the rules above; the tests between them do not matter.
      repeat' first
        | refine Ensures.ite (fun _ => ?_) fun _ => ?_
        | exact hadd (itemImpl_ensures fuel start)
        | exact hadd (itemUnsafe_ensures fuel start _)
        | exact hother (itemExtern_ensures (derive fuel) _)
        | exact hconst [noAttributes, _]
        | refine hother (hrules _ ?_); simp
        | refine Ensures.after fun _ => ?_
    case h_2 => exact .failure_bind

end

/-! ## Parentheses around ranges -/

theorem EndsInName.grouped {path : Tree} (h : EndsInName path) : EndsInName path.grouped := by
  obtain ⟨hlast, hname⟩ := h
  rw [grouped_node (by decide)]
  exact .intro ((congrArg List.getLast? (pathNames_grouped _)).trans hlast) hname

theorem IsContent.grouped {content : Tree} (h : IsContent content) : IsContent content.grouped := by
  obtain ⟨hkind, hpath⟩ := h
  rw [grouped_node hkind, List.map_cons]
  exact .intro hkind hpath.grouped

theorem IsAttribute.grouped {found : Tree} (h : IsAttribute found) : IsAttribute found.grouped := by
  obtain ⟨hcontent⟩ := h
  rw [grouped_node (by decide), List.map_cons, List.map_cons, List.map_singleton, grouped_group,
    List.map_singleton]
  exact .intro hcontent.grouped

theorem forall_mem_map_grouped {P : Tree → Prop} (hP : ∀ {tree}, P tree → P tree.grouped)
    {trees : List Tree} (h : ∀ tree ∈ trees, P tree) : ∀ tree ∈ trees.map Tree.grouped, P tree :=
  List.forall_mem_map.mpr fun tree htree => hP (h tree htree)

theorem IsBody.grouped {body : Tree} (h : IsBody body) : IsBody body.grouped := by
  obtain ⟨hinner⟩ := h
  rw [grouped_node (by decide), List.map_singleton, grouped_group, List.map_cons,
    grouped_node (by decide)]
  exact .intro (forall_mem_map_grouped .grouped hinner)

theorem IsMember.grouped {member : Tree} (h : IsMember member) : IsMember member.grouped := by
  cases h with
  | method houter hbody =>
    rw [grouped_node (by decide)]
    simp only [List.map_cons, List.map_nil]
    rw [grouped_node (by decide)]
    exact .method (forall_mem_map_grouped .grouped houter) hbody.grouped
  | other hother => exact .other ((isKind_grouped .implFn member nofun nofun).trans hother)

theorem IsItem.grouped {item : Tree} (h : IsItem item) : IsItem item.grouped := by
  cases h with
  | block hmembers =>
    rw [grouped_node (by decide)]
    simp only [List.map_cons, List.map_nil]
    rw [grouped_group, List.map_cons]
    exact .block (forall_mem_map_grouped .grouped hmembers)
  | other hother => exact .other ((isKind_grouped .itemImpl item nofun nofun).trans hother)

/-- **Every item that a text holds has the shape of its kind.** -/
theorem isItem_of_itemOfText? {text : String} {item : Tree} (h : itemOfText? text = some item) :
    IsItem item := by
  obtain ⟨ts, hts, hitem⟩ := Option.bind_eq_some_iff.mp h
  unfold parseAll at hitem
  split at hitem
  case h_1 tree hparser =>
    cases hitem
    exact ((item_ensures (fuelFor ts)).holds (Token.named_of_tokenize hts) hparser).grouped
  case h_2 => cases hitem

end RouteRegistrar.Grammar
