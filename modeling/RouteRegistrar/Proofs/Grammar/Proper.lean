import RouteRegistrar.Grammar.Grouping
import RouteRegistrar.Proofs.Grammar.Parser
import RouteRegistrar.Proofs.Source.TypePaths

/-!
# Proper trees

A tree is proper if the paths of its types and its receivers have their shape. Nearly every rule of
the grammar only puts together what other rules have found, and a node of another kind is proper if
its children are. Being proper is therefore a class here, for values and for parsers: one instance
for each way of building a value or a parser, and the rules of the grammar follow.
-/

namespace RouteRegistrar

open Grammar

-- The size of an answer doubles with each variable that a part of a rule does not mention.
set_option synthInstance.maxSize 100000

/-! ## Values -/

/-- A type whose values have trees in them. -/
class HoldsTrees (α : Type) where
  /-- The trees in a value. -/
  trees : α → List Tree

instance : HoldsTrees Tree := ⟨fun tree => [tree]⟩

instance : HoldsTrees Token := ⟨fun _ => []⟩

instance : HoldsTrees Bool := ⟨fun _ => []⟩

instance : HoldsTrees Nat := ⟨fun _ => []⟩

instance : HoldsTrees Unit := ⟨fun _ => []⟩

instance {α : Type} [HoldsTrees α] : HoldsTrees (List α) := ⟨List.flatMap HoldsTrees.trees⟩

instance {α β : Type} [HoldsTrees α] [HoldsTrees β] : HoldsTrees (α × β) :=
  ⟨fun pair => HoldsTrees.trees pair.1 ++ HoldsTrees.trees pair.2⟩

/-- All trees in a value are proper. -/
class Proper {α : Type} [HoldsTrees α] (value : α) : Prop where
  isProper : ∀ tree ∈ HoldsTrees.trees value, tree.IsProper

/-- A test that comes out true by itself. -/
class Holds (test : Bool) : Prop where
  eq_true : test = true

instance : Holds true := ⟨rfl⟩

namespace Proper

variable {α β : Type} [HoldsTrees α] [HoldsTrees β]

instance (token : Token) : Proper token := ⟨nofun⟩

instance (test : Bool) : Proper test := ⟨nofun⟩

instance (number : Nat) : Proper number := ⟨nofun⟩

instance (nothing : Unit) : Proper nothing := ⟨nofun⟩

instance (value : Subtype (Proper (α := α))) : Proper value.val := value.property

/-! ### Lists and pairs -/

theorem list_iff {values : List α} : Proper values ↔ ∀ value ∈ values, Proper value := by
  constructor
  · intro h value hvalue
    exact ⟨fun tree htree => h.isProper tree (List.mem_flatMap.mpr ⟨value, hvalue, htree⟩)⟩
  · intro h
    constructor
    intro tree htree
    obtain ⟨value, hvalue, htree⟩ := List.mem_flatMap.mp htree
    exact (h value hvalue).isProper tree htree

instance : Proper ([] : List α) := ⟨nofun⟩

theorem cons_iff {value : α} {rest : List α} :
    Proper (value :: rest) ↔ Proper value ∧ Proper rest := by
  rw [list_iff, List.forall_mem_cons, list_iff]

instance {value : α} {rest : List α} [hvalue : Proper value] [hrest : Proper rest] :
    Proper (value :: rest) := cons_iff.mpr ⟨hvalue, hrest⟩

instance {front back : List α} [hfront : Proper front] [hback : Proper back] :
    Proper (front ++ back) :=
  list_iff.mpr (List.forall_mem_append.mpr ⟨list_iff.mp hfront, list_iff.mp hback⟩)

instance {values : List α} [h : Proper values] : Proper values.reverse :=
  list_iff.mpr fun value hvalue => list_iff.mp h value (List.mem_reverse.mp hvalue)

instance {values : List Token} : Proper values := list_iff.mpr fun _ _ => inferInstance

instance {values : List Nat} : Proper values := list_iff.mpr fun _ _ => inferInstance

theorem pair_iff {pair : α × β} : Proper pair ↔ Proper pair.1 ∧ Proper pair.2 := by
  constructor
  · intro h
    obtain ⟨hfirst, hsecond⟩ := List.forall_mem_append.mp h.isProper
    exact ⟨⟨hfirst⟩, ⟨hsecond⟩⟩
  · rintro ⟨hfirst, hsecond⟩
    exact ⟨List.forall_mem_append.mpr ⟨hfirst.isProper, hsecond.isProper⟩⟩

instance {first : α} {second : β} [hfirst : Proper first] [hsecond : Proper second] :
    Proper (first, second) := pair_iff.mpr ⟨hfirst, hsecond⟩

instance {pair : α × β} [h : Proper pair] : Proper pair.1 := (pair_iff.mp h).1

instance {pair : α × β} [h : Proper pair] : Proper pair.2 := (pair_iff.mp h).2

instance (priority := low) (pair : α × β) [hfirst : ∀ first : α, Proper first]
    [hsecond : ∀ second : β, Proper second] : Proper pair :=
  pair_iff.mpr ⟨hfirst pair.1, hsecond pair.2⟩

instance {condition : Prop} [Decidable condition] {yes no : α} [Proper yes] [Proper no] :
    Proper (if condition then yes else no) := by
  split <;> infer_instance

/-! ### Trees -/

theorem tree_iff {tree : Tree} : Proper tree ↔ tree.IsProper :=
  ⟨fun h => h.isProper tree (List.mem_singleton_self _),
    fun h => ⟨fun _ htree => List.mem_singleton.mp htree ▸ h⟩⟩

end Proper

namespace Tree

variable {kind : Kind} {children : List Tree}

theorem isProper_leaf {tree : Tree} (h : tree.isLeaf = true) : tree.IsProper := by
  intro part hpart
  rw [parts_leaf h, List.mem_singleton] at hpart
  subst hpart
  cases part with
  | node => cases h
  | _ => rfl

/-- A node is proper if it has its shape and its children are proper. -/
theorem isProper_node_iff : (node kind children).IsProper ↔
    (node kind children).hasShape = true ∧ ∀ tree ∈ children, tree.IsProper := by
  constructor
  · exact fun h => ⟨h.hasShape, fun tree htree => h.of_mem_node htree⟩
  · rintro ⟨hshape, hchildren⟩ part hpart
    rw [parts_node, List.mem_cons] at hpart
    rcases hpart with rfl | hpart
    · exact hshape
    · obtain ⟨tree, htree, hpart⟩ := List.mem_flatMap.mp hpart
      exact hchildren tree htree part hpart

theorem isProper_group_iff {delimiter : Delimiter} :
    (group delimiter children).IsProper ↔ ∀ tree ∈ children, tree.IsProper := by
  constructor
  · exact fun h tree htree => h.of_mem_group htree
  · intro h part hpart
    rw [parts_group, List.mem_cons] at hpart
    rcases hpart with rfl | hpart
    · rfl
    · obtain ⟨tree, htree, hpart⟩ := List.mem_flatMap.mp hpart
      exact h tree htree part hpart

/-- Nodes of all kinds but two have any children. -/
abbrev isFree : Kind → Bool
  | .typePath => false
  | .receiver => false
  | _ => true

theorem hasShape_of_isFree (h : isFree kind = true) : (node kind children).hasShape = true := by
  unfold hasShape
  split
  case h_1 heq | h_2 heq =>
    cases heq
    cases h
  case h_3 => rfl

end Tree

namespace Proper

variable {kind : Kind} {children : List Tree}

theorem forall_iff : Proper children ↔ ∀ tree ∈ children, tree.IsProper := by
  simp only [list_iff, tree_iff]

theorem node_iff : Proper (Tree.node kind children) ↔
    (Tree.node kind children).hasShape = true ∧ Proper children := by
  rw [tree_iff, Tree.isProper_node_iff, forall_iff]

theorem group_iff {delimiter : Delimiter} :
    Proper (Tree.group delimiter children) ↔ Proper children := by
  rw [tree_iff, Tree.isProper_group_iff, forall_iff]

instance [h : Holds (Tree.isFree kind)] [hchildren : Proper children] :
    Proper (Tree.node kind children) :=
  node_iff.mpr ⟨Tree.hasShape_of_isFree h.eq_true, hchildren⟩

instance {delimiter : Delimiter} [h : Proper children] : Proper (Tree.group delimiter children) :=
  group_iff.mpr h

instance {text : String} : Proper (Tree.word text) := tree_iff.mpr (Tree.isProper_leaf rfl)

instance {text : String} : Proper (Tree.op text) := tree_iff.mpr (Tree.isProper_leaf rfl)

instance {text : String} : Proper (Tree.literal text) := tree_iff.mpr (Tree.isProper_leaf rfl)

instance {name : String} : Proper (Tree.lifetime name) := tree_iff.mpr (Tree.isProper_leaf rfl)

instance {content : List Token} : Proper (Tree.tokens content) :=
  tree_iff.mpr (Tree.isProper_leaf rfl)

instance : Proper Tree.absent := by delta Tree.absent; infer_instance

instance : Proper noAttributes := by delta noAttributes; infer_instance

instance {tree : Tree} [h : Proper tree] : Proper tree.children := by
  cases tree with
  | node => exact (node_iff.mp h).2
  | group => exact group_iff.mp h
  | _ => exact inferInstanceAs (Proper [])

/-- More attributes in front change no shape. -/
instance {attributes : List Tree} {tree : Tree} [Proper attributes] [h : Proper tree] :
    Proper (addAttributes attributes tree) := by
  unfold addAttributes
  split
  case h_2 => exact h
  case h_1 kind own rest =>
    obtain ⟨hshape, hchildren⟩ := node_iff.mp h
    obtain ⟨hown, hrest⟩ := cons_iff.mp hchildren
    have : Proper own := (node_iff.mp hown).2
    refine node_iff.mpr ⟨?_, inferInstance⟩
    -- Neither of the two shapes says anything about a first child with attributes.
    unfold Tree.hasShape at hshape ⊢
    split at hshape <;> simp_all

end Proper

/-! ## Parsers -/

namespace Parser

variable {α β : Type} [HoldsTrees α] [HoldsTrees β]

/-- All trees that a parser finds are proper. -/
class ReadsProper (parser : Parser α) : Prop where
  ensures : parser.Ensures Proper

namespace ReadsProper

instance {value : α} [Proper value] : ReadsProper (pure value) := ⟨.pure inferInstance⟩

instance : (failure : Parser α).ReadsProper := ⟨.failure⟩

theorem bind {first : Parser α} {next : α → Parser β} (hfirst : first.ReadsProper)
    (hnext : ∀ value, Proper value → (next value).ReadsProper) : (first >>= next).ReadsProper :=
  ⟨.bind hfirst.ensures fun value hvalue => (hnext value hvalue).ensures⟩

-- An instance cannot assume that a value is proper, so the value brings the fact along.
instance {first : Parser α} {next : α → Parser β} [hfirst : first.ReadsProper]
    [hnext : ∀ value : Subtype (Proper (α := α)), (next value.val).ReadsProper] :
    (first >>= next).ReadsProper := bind hfirst fun value hvalue => hnext ⟨value, hvalue⟩

instance {parser : Parser α} {change : α → β} [hparser : parser.ReadsProper]
    [hchange : ∀ value : Subtype (Proper (α := α)), Proper (change value.val)] :
    (change <$> parser).ReadsProper :=
  bind hparser fun value hvalue => inferInstanceAs (pure (change (⟨value, hvalue⟩ :
    Subtype (Proper (α := α))).val) : Parser β).ReadsProper

/-- Nothing is asked of a value that does not get into what is read. -/
theorem after {γ : Type} {first : Parser γ} {next : γ → Parser β}
    (hnext : ∀ value, (next value).ReadsProper) : (first >>= next).ReadsProper :=
  ⟨.after fun value => (hnext value).ensures⟩

theorem ite {condition : Prop} [Decidable condition] {yes no : Parser α} (hyes : yes.ReadsProper)
    (hno : no.ReadsProper) : (if condition then yes else no).ReadsProper :=
  ⟨.ite (fun _ => hyes.ensures) fun _ => hno.ensures⟩

instance {condition : Prop} [Decidable condition] {yes no : Parser α} [hyes : yes.ReadsProper]
    [hno : no.ReadsProper] : (if condition then yes else no).ReadsProper := ite hyes hno

instance {first second : Parser α} [hfirst : first.ReadsProper] [hsecond : second.ReadsProper] :
    (either first second).ReadsProper := ⟨.either hfirst.ensures hsecond.ensures⟩

/-- There is nothing to show of a parser that finds no trees. -/
instance (priority := low) {parser : Parser α} [h : ∀ value : α, Proper value] :
    parser.ReadsProper := ⟨.mono (.trivial parser) fun value _ => h value⟩

/-! ### Tokens and brackets -/

theorem token {accept : Token → Option α} (h : ∀ t value, accept t = some value → Proper value) :
    (Parser.token accept).ReadsProper := ⟨.token fun t value _ => h t value⟩

instance {text : String} : (word text).ReadsProper := by
  refine token fun t tree h => ?_
  split at h
  case h_1 =>
    split at h <;> cases h
    infer_instance
  case h_2 => cases h

instance : anyWord.ReadsProper := by
  refine token fun t tree h => ?_
  split at h <;> cases h
  infer_instance

instance : rawGroup.ReadsProper := by
  refine token fun t tree h => ?_
  split at h <;> cases h
  infer_instance

instance : lifetime.ReadsProper := by
  refine bind inferInstance fun ts _ => bind inferInstance fun _ _ => bind inferInstance fun _ _ =>
    token fun t tree h => ?_
  split at h <;> cases h
  infer_instance

instance : literal.ReadsProper := by
  refine bind inferInstance fun ts _ => bind inferInstance fun _ _ => bind inferInstance
    fun behind _ => ?_
  split
  case h_1 =>
    refine bind inferInstance fun _ _ => token fun t trees h => ?_
    split at h <;> cases h
    infer_instance
  case h_2 =>
    refine token fun t trees h => ?_
    split at h <;> cases h <;> infer_instance

instance {text : String} : (op text).ReadsProper := by
  refine ⟨Ensures.operator.mono ?_⟩
  rintro _ rfl
  infer_instance

instance : Parser.ident.ReadsProper := by delta Parser.ident; infer_instance

instance {delimiter : Delimiter} {parser : Parser α} [h : parser.ReadsProper] :
    (inside delimiter parser).ReadsProper := ⟨.inside h.ensures⟩

instance {delimiter : Delimiter} {parser : Parser (List Tree)} [parser.ReadsProper] :
    (within delimiter parser).ReadsProper := by delta within; infer_instance

instance {start : List Token} : (since start).ReadsProper := by delta since; infer_instance

instance {parser : Parser Unit} : (verbatim parser).ReadsProper := by
  delta verbatim; infer_instance

/-! ### Children that may be missing -/

instance {test : List Token → Bool} {parser : Parser Tree} [parser.ReadsProper] :
    (Parser.optional test parser).ReadsProper := by delta Parser.optional; infer_instance

instance {mark : Tree} {parser : Parser Tree} [parser.ReadsProper] :
    (follow mark parser).ReadsProper := by delta follow; infer_instance

instance {text : String} : (optionalWord text).ReadsProper := by
  delta optionalWord; infer_instance

instance {text : String} : (optionalOp text).ReadsProper := by delta optionalOp; infer_instance

instance : optionalLifetime.ReadsProper := by delta optionalLifetime; infer_instance

/-! ### Repetitions -/

theorem iterate {step : α → Parser (α × Bool)} {value : α} (hvalue : Proper value)
    (hstep : ∀ before, Proper before → (step before).ReadsProper) :
    (Parser.iterate step value).ReadsProper :=
  ⟨.iterate hvalue fun before hbefore =>
    (hstep before hbefore).ensures.mono fun _ hnext => (Proper.pair_iff.mp hnext).1⟩

instance {step : α → Parser (α × Bool)} {value : α} [hvalue : Proper value]
    [hstep : ∀ before : Subtype (Proper (α := α)), (step before.val).ReadsProper] :
    (Parser.iterate step value).ReadsProper :=
  iterate hvalue fun before hbefore => hstep ⟨before, hbefore⟩

instance {test : List Token → Bool} {parser : Parser Tree} [parser.ReadsProper] :
    (many test parser).ReadsProper := by delta many; infer_instance

instance {parser : Parser Tree} [parser.ReadsProper] : (all parser).ReadsProper := by
  delta Parser.all; infer_instance

instance {stop : List Token → Bool} {separator : String} {parser : Parser Tree}
    [parser.ReadsProper] : (listUntil stop separator parser).ReadsProper := by
  delta listUntil; infer_instance

instance {separator : String} {parser : Parser Tree} [parser.ReadsProper] :
    (separated separator parser).ReadsProper := by delta separated; infer_instance

instance {more : List Token → Bool} {separator : String} {parser : Parser Tree}
    [parser.ReadsProper] : (chain more separator parser).ReadsProper := by
  delta chain; infer_instance

instance {parser : Parser Tree} [parser.ReadsProper] : (angleList parser).ReadsProper := by
  delta angleList; infer_instance

end ReadsProper

end Parser

end RouteRegistrar
