import RouteRegistrar.Grammar.Parser
import RouteRegistrar.Proofs.Token.Names

/-!
# What parsers ensure

A parser ensures a property if everything that it finds in named tokens has it. There is one rule
for each way of building parsers, so a property of a tree is shown along the parser that builds it.

What is left behind a parser is the end of what was there, and what stands in brackets is part of
it: hence all tokens that a parser meets are named if those of the text are.
-/

namespace RouteRegistrar.Parser

variable {α β : Type} {found : α → Prop}

/-- Whatever a parser finds in named tokens has a property. -/
structure Ensures (parser : Parser α) (found : α → Prop) : Prop where
  holds {ts rest : List Token} {value : α} : (∀ t ∈ ts, t.Named) →
    parser ts = some (value, rest) → found value

/-- What is left of named tokens is named. -/
theorem named_left {parser : Parser α} {ts rest : List Token} {value : α}
    (hts : ∀ t ∈ ts, t.Named) (h : parser ts = some (value, rest)) : ∀ t ∈ rest, t.Named :=
  fun t ht => hts t ((parser.isSuffix h).subset ht)

namespace Ensures

/-! ## Sequences -/

theorem trivial (parser : Parser α) : parser.Ensures fun _ => True := ⟨fun _ _ => True.intro⟩

theorem mono {parser : Parser α} {weaker : α → Prop} (h : parser.Ensures found)
    (hweaker : ∀ value, found value → weaker value) : parser.Ensures weaker :=
  ⟨fun hts hparser => hweaker _ (h.holds hts hparser)⟩

theorem and {parser : Parser α} {other : α → Prop} (h : parser.Ensures found)
    (hother : parser.Ensures other) : parser.Ensures fun value => found value ∧ other value :=
  ⟨fun hts hparser => ⟨h.holds hts hparser, hother.holds hts hparser⟩⟩

theorem pure {value : α} (h : found value) : (Pure.pure value : Parser α).Ensures found := by
  constructor
  intro ts rest other _ hvalue
  cases hvalue
  exact h

theorem failure : (Alternative.failure : Parser α).Ensures found := ⟨fun _ => nofun⟩

/-- What the second parser ensures may depend on what the first one has found. -/
theorem bind {first : Parser α} {next : α → Parser β} {between : α → Prop} {found : β → Prop}
    (h : first.Ensures between) (hnext : ∀ value, between value → (next value).Ensures found) :
    (first >>= next).Ensures found := by
  constructor
  intro ts rest value hts hboth
  obtain ⟨⟨middle, left⟩, hfirst, hsecond⟩ := Option.bind_eq_some_iff.mp hboth
  exact (hnext middle (h.holds hts hfirst)).holds (named_left hts hfirst) hsecond

/-- What the second parser ensures whatever the first one has found. -/
theorem after {first : Parser α} {next : α → Parser β} {found : β → Prop}
    (hnext : ∀ value, (next value).Ensures found) : (first >>= next).Ensures found :=
  bind (trivial first) fun value _ => hnext value

/-- A parser that looks ahead goes on in front of the tokens that it has seen. -/
theorem ahead {next : List Token → Parser β} {found : β → Prop}
    (h : ∀ {ts rest value}, (∀ t ∈ ts, t.Named) → next ts ts = some (value, rest) → found value) :
    (Parser.ahead >>= next).Ensures found := ⟨fun hts hnext => h hts hnext⟩

/-- Nothing follows a failure. -/
theorem failure_bind {next : α → Parser β} {found : β → Prop} :
    ((Alternative.failure : Parser α) >>= next).Ensures found :=
  bind (@failure α fun _ => False) fun _ => False.elim

theorem ite {condition : Prop} [Decidable condition] {yes no : Parser α}
    (hyes : condition → yes.Ensures found) (hno : ¬condition → no.Ensures found) :
    (if condition then yes else no).Ensures found := by
  split
  case isTrue h => exact hyes h
  case isFalse h => exact hno h

theorem either {first second : Parser α} (hfirst : first.Ensures found)
    (hsecond : second.Ensures found) : (Parser.either first second).Ensures found := by
  constructor
  intro ts rest value hts h
  rcases Option.or_eq_some_iff.mp h with h | ⟨-, h⟩
  · exact hfirst.holds hts h
  · exact hsecond.holds hts h

/-! ## Tokens and brackets -/

theorem token {accept : Token → Option α}
    (h : ∀ t value, t.Named → accept t = some value → found value) :
    (Parser.token accept).Ensures found := by
  constructor
  intro ts rest value hts htoken
  cases ts with
  | nil => cases htoken
  | cons t ts =>
    obtain ⟨_, haccept, hpair⟩ := Option.map_eq_some_iff.mp htoken
    cases hpair
    exact h t value (hts t List.mem_cons_self) haccept

/-- A word that is read is a name. -/
theorem anyWord : Parser.anyWord.Ensures fun tree =>
    ∃ name, tree = .word name ∧ Text.IsName name := by
  refine token fun t tree ht haccept => ?_
  cases ht with
  | ident hname =>
    cases haccept
    exact ⟨_, rfl, hname⟩
  | punct | literal | group => cases haccept

theorem operator {text : String} : (op text).Ensures (· = .op text) := by
  constructor
  intro ts rest tree _ h
  rw [op] at h
  dsimp only at h
  split at h <;> cases h
  rfl

theorem optionalOp {text : String} :
    (Parser.optionalOp text).Ensures fun tree => tree = .op text ∨ tree = .absent :=
  after fun _ => ite (fun _ => mono operator fun _ => .inl) fun _ => pure (.inr rfl)

/-- What is found in brackets is found by the parser of their content. -/
theorem inside {delimiter : Delimiter} {parser : Parser α} (h : parser.Ensures found) :
    (Parser.inside delimiter parser).Ensures found := by
  refine token fun t value ht haccept => ?_
  cases ht with
  | group hcontent =>
    -- The content is named, so the property of its parser applies to it.
    simp only at haccept
    split at haccept
    case isTrue =>
      split at haccept
      case h_1 hparser =>
        cases haccept
        exact h.holds hcontent hparser
      case h_2 => cases haccept
    case isFalse => cases haccept
  | ident | punct | literal => cases haccept

theorem within (delimiter : Delimiter) {parser : Parser (List Tree)}
    {found : List Tree → Prop} (h : parser.Ensures found) :
    (Parser.within delimiter parser).Ensures fun tree =>
      ∃ content, tree = .group delimiter content ∧ found content :=
  bind (inside h) fun content hcontent => pure ⟨content, rfl, hcontent⟩

/-! ## Repetitions -/

theorem rounds {step : α → Parser (α × Bool)}
    (hstep : ∀ value, found value → (step value).Ensures fun next => found next.1) :
    ∀ (limit : Nat) {value : α}, found value → (Parser.rounds step limit value).Ensures found
  | 0, _, _ => failure
  | limit + 1, value, hvalue => by
    rw [Parser.rounds]
    -- Whether another round follows or not, it starts from what this one has found.
    refine after fun before => bind (hstep value hvalue) fun (next, more) hnext => ?_
    refine ite (fun _ => ?_) fun _ => pure hnext
    exact after fun left => after fun _ => rounds hstep limit hnext

/-- A repetition keeps what each of its rounds keeps. -/
theorem iterate {step : α → Parser (α × Bool)} {value : α} (hvalue : found value)
    (hstep : ∀ value, found value → (step value).Ensures fun next => found next.1) :
    (Parser.iterate step value).Ensures found :=
  after fun _ => rounds hstep _ hvalue

/-- Everything that is read again and again has the property of one round. -/
theorem many {test : List Token → Bool} {parser : Parser Tree} {found : Tree → Prop}
    (h : parser.Ensures found) :
    (Parser.many test parser).Ensures fun trees => ∀ tree ∈ trees, found tree := by
  -- The trees are gathered in reverse, so a round puts one in front.
  have hround (done : List Tree) (hdone : ∀ tree ∈ done, found tree) :
      (do
        if test (← Parser.ahead) then return ((← parser) :: done, true) else return (done, false) :
        Parser (List Tree × Bool)).Ensures fun next => ∀ tree ∈ next.1, found tree := by
    refine after fun ts => ite (fun _ => ?_) fun _ => pure hdone
    exact bind h fun tree htree => pure (List.forall_mem_cons.mpr ⟨htree, hdone⟩)
  refine bind (iterate ?_ hround) fun trees htrees => pure ?_
  · simp
  · simpa using htrees

/-- The last one of a chain has the property of each. -/
theorem chain {more : List Token → Bool} {separator : String} {parser : Parser Tree}
    {found : Tree → Prop} (h : parser.Ensures found) :
    (Parser.chain more separator parser).Ensures fun trees =>
      ∃ front last, trees = front ++ [last] ∧ found last := by
  -- The trees are collected in reverse, so the last one stands in front.
  have hround (done : List Tree) (hdone : ∃ last before, done = last :: before ∧ found last) :
      (do
        if more (← Parser.ahead) then
          let between ← op separator
          let item ← parser
          return (item :: between :: done, true)
        else return (done, false) : Parser (List Tree × Bool)).Ensures fun next =>
          ∃ last before, next.1 = last :: before ∧ found last := by
    refine after fun ts => ite (fun _ => ?_) fun _ => pure hdone
    exact after fun between => bind h fun item hitem => pure ⟨item, _, rfl, hitem⟩
  refine bind h fun first hfirst => bind (iterate ⟨first, [], rfl, hfirst⟩ hround) ?_
  rintro _ ⟨last, before, rfl, hlast⟩
  exact pure ⟨before.reverse, last, List.reverse_cons, hlast⟩

/-- Everything in a chain has a property that each one has, the separators included. -/
theorem chain_all {more : List Token → Bool} {separator : String} {parser : Parser Tree}
    {found : Tree → Prop} (hseparator : found (.op separator)) (h : parser.Ensures found) :
    (Parser.chain more separator parser).Ensures fun trees => ∀ tree ∈ trees, found tree := by
  -- A round puts an item and a separator in front of what has been read so far.
  have hround (done : List Tree) (hdone : ∀ tree ∈ done, found tree) :
      (do
        if more (← Parser.ahead) then
          let between ← op separator
          let item ← parser
          return (item :: between :: done, true)
        else return (done, false) : Parser (List Tree × Bool)).Ensures fun next =>
          ∀ tree ∈ next.1, found tree := by
    refine after fun ts => ite (fun _ => bind operator ?_) fun _ => pure hdone
    rintro _ rfl
    refine bind h fun item hitem => pure ?_
    exact List.forall_mem_cons.mpr ⟨hitem, List.forall_mem_cons.mpr ⟨hseparator, hdone⟩⟩
  refine bind h fun first hfirst => bind (iterate ?_ hround) fun trees htrees => pure ?_
  · simpa using hfirst
  · simpa using htrees

end Ensures

end RouteRegistrar.Parser
