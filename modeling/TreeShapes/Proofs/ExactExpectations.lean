import TreeShapes.Proofs.TreeGrammar

namespace TreeShapes
namespace BinaryTree

/-!
# Errors of tree literals name exactly what could follow

The reader of tree literals is live: a tree that is due can be filled in, and
the open brackets can be closed from the inside out.  The lists that it can
walk through are therefore the beginnings of accepted ones, and the tokens with
which such a beginning can go on are those that the state reached by it
accepts.

What an error reports as expected is computed from the same state.  Behind a
tree the two agree mark by mark.  Where a tree is due nothing is reported as
expected, and the tokens that can follow are those that begin a tree; only
directly behind a left bracket the list may also be closed at once.  The last
token consumed tells the two places apart.
-/

/-! ## Bringing a reading to an end -/

/-- Tokens that lead from a place to the place behind a tree. -/
def Place.completion : Place -> List Token
  | due => [Token.name Literal.nilSpelling]
  | listStart => [.punct .rbracket]
  | after _ => []

/-- Tokens that close a bracket, behind the tree read last inside it. -/
def Bracket.completion : Bracket -> List Token
  | left => [.punct .dot, Token.name Literal.nilSpelling, .punct .rangle]
  | right _ => [.punct .rangle]
  | items _ => [.punct .rbracket]

theorem advance?_placeCompletion (place : Place) (brackets : List Bracket) :
    exists tree, reader.advance? ⟨place, brackets⟩ place.completion =
      some ⟨.after tree, brackets⟩ := by
  cases place <;> exact ⟨_, rfl⟩

theorem advance?_bracketCompletion (tree : BinaryTree) (bracket : Bracket)
    (brackets : List Bracket) :
    exists value, reader.advance? ⟨.after tree, bracket :: brackets⟩ bracket.completion =
      some ⟨.after value, brackets⟩ := by
  cases bracket <;> exact ⟨_, rfl⟩

theorem advance?_bracketsCompletion (tree : BinaryTree) (brackets : List Bracket) :
    exists value, reader.advance? ⟨.after tree, brackets⟩ (brackets.flatMap Bracket.completion) =
      some ⟨.after value, []⟩ := by
  induction brackets generalizing tree with
  | nil => exact ⟨tree, rfl⟩
  | cons bracket brackets inductionHypothesis =>
      rcases advance?_bracketCompletion tree bracket brackets with ⟨inner, closed⟩
      rw [List.flatMap_cons, Reader.advance?_append_of_eq _ closed]
      exact inductionHypothesis inner

theorem reader_live : reader.Live := by
  rintro ⟨place, brackets⟩
  rcases advance?_placeCompletion place brackets with ⟨tree, behind⟩
  rcases advance?_bracketsCompletion tree brackets with ⟨value, closed⟩
  refine ⟨place.completion ++ brackets.flatMap Bracket.completion, ⟨.after value, []⟩, value,
    ?_, rfl⟩
  rw [Reader.advance?_append_of_eq _ behind]
  exact closed

theorem demand_ne_endOfInput (state : State) : demand state ≠ .token (some .endOfInput) := by
  rcases state with ⟨place, brackets⟩
  intro asked
  cases place with
  | due => cases asked
  | listStart => cases asked
  | after tree =>
      cases brackets with
      | nil => cases asked
      | cons bracket brackets => cases bracket <;> cases asked

/-! ## The tokens that a state accepts -/

/-- The tokens that can follow where an error expected the given tokens, directly behind `last`.
Without an expectation a tree is due there. -/
def Continues (expected : Option Expected) (last : Option Token) (token : Token) : Prop :=
  match expected with
  | some expected => token ∈ expected.tokens
  | none =>
      token = .punct .langle ∨ token = .punct .lbracket ∨
      (exists literal tree, token = .literal literal ∧ literal.tree? = some tree) ∨
      (token = .punct .rbracket ∧ last = some (.punct .lbracket))

theorem exists_beginTree_iff {brackets : List Bracket} {token : Token} :
    (exists next, beginTree brackets token = some next) <->
      token = .punct .langle ∨ token = .punct .lbracket ∨
      exists literal tree, token = .literal literal ∧ literal.tree? = some tree := by
  cases token with
  | literal literal =>
      constructor
      · rintro ⟨next, begun⟩
        rcases Option.map_eq_some_iff.mp begun with ⟨tree, valued, _⟩
        exact Or.inr (Or.inr ⟨literal, tree, rfl, valued⟩)
      · rintro (impossible | impossible | ⟨own, tree, same, valued⟩)
        · cases impossible
        · cases impossible
        · cases same
          exact ⟨_, Option.map_eq_some_iff.mpr ⟨tree, valued, rfl⟩⟩
  | punct mark => cases mark <;> simp [beginTree]

theorem exists_leaveBracket_iff {tree : BinaryTree} {bracket : Bracket}
    {brackets : List Bracket} {token : Token} :
    (exists next, leaveBracket tree bracket brackets token = some next) <->
      token ∈ bracket.expected.tokens := by
  cases token with
  | literal literal => cases bracket <;> simp [leaveBracket, Bracket.expected]
  | punct mark => cases bracket <;> cases mark <;> simp [leaveBracket, Bracket.expected]

/-- A state accepts exactly the tokens that its report leads one to expect, provided that `last`
tells whether a list was just opened. -/
theorem exists_accept_iff {state : State} {last : Option Token} {token : Token}
    (opened : state.place = .listStart <-> last = some (.punct .lbracket)) :
    (exists next, accept state token = some next) <->
      Continues (demand state).expected? last token := by
  rcases state with ⟨place, brackets⟩
  cases place with
  | due =>
      have notOpened : last ≠ some (.punct .lbracket) := by
        intro same
        cases opened.mpr same
      change (exists next, beginTree brackets token = some next) <-> Continues none last token
      rw [exists_beginTree_iff]
      simp only [Continues, notOpened, and_false, or_false]
  | listStart =>
      have isOpened : last = some (.punct .lbracket) := opened.mp rfl
      change _ <-> Continues none last token
      by_cases closing : token = .punct .rbracket
      · subst token
        simp [Continues, isOpened, accept]
      · rw [accept_listStart_of_ne closing, exists_beginTree_iff]
        simp only [Continues, closing, false_and, or_false]
  | after tree =>
      cases brackets with
      | nil => simp [accept, demand, Demand.expected?, Continues, Expected.tokens]
      | cons bracket brackets => exact exists_leaveBracket_iff

/-! ## The last token tells the place -/

theorem place_beginTree_eq_listStart_iff {brackets : List Bracket} {token : Token} {next : State}
    (begun : beginTree brackets token = some next) :
    next.place = .listStart <-> token = .punct .lbracket := by
  cases token with
  | literal literal =>
      rcases Option.map_eq_some_iff.mp begun with ⟨tree, _, rfl⟩
      simp
  | punct mark =>
      cases mark with
      | langle =>
          cases begun
          simp
      | lbracket =>
          cases begun
          simp
      | _ => cases begun

theorem place_leaveBracket_ne_listStart {tree : BinaryTree} {bracket : Bracket}
    {brackets : List Bracket} {token : Token} {next : State}
    (left : leaveBracket tree bracket brackets token = some next) :
    next.place ≠ .listStart ∧ token ≠ .punct .lbracket := by
  cases token with
  | literal literal => cases left
  | punct mark =>
      cases bracket <;> cases mark <;> cases left <;> simp

/-- An accepted token opens a list exactly if it is a left bracket. -/
theorem place_accept_eq_listStart_iff {state next : State} {token : Token}
    (accepted : accept state token = some next) :
    next.place = .listStart <-> token = .punct .lbracket := by
  rcases state with ⟨place, brackets⟩
  cases place with
  | due => exact place_beginTree_eq_listStart_iff accepted
  | listStart =>
      by_cases closing : token = .punct .rbracket
      · subst token
        cases accepted
        simp
      · rw [accept_listStart_of_ne closing] at accepted
        exact place_beginTree_eq_listStart_iff accepted
  | after tree =>
      cases brackets with
      | nil => cases accepted
      | cons bracket brackets =>
          have neither := place_leaveBracket_ne_listStart accepted
          exact iff_of_false neither.1 neither.2

theorem place_eq_listStart_iff_getLast? {tokens : List Token} {state : State}
    (reached : reader.advance? reader.start tokens = some state) :
    state.place = .listStart <-> tokens.getLast? = some (.punct .lbracket) := by
  rcases List.eq_nil_or_concat tokens with empty | ⟨front, last, split⟩
  · subst tokens
    cases reached
    simp [reader]
  · subst tokens
    rw [List.concat_eq_append] at reached ⊢
    rcases reader.advance?_concat_eq_some_iff.mp reached with ⟨middle, _, accepted⟩
    rw [place_accept_eq_listStart_iff accepted, List.getLast?_concat, Option.some.injEq]

/-! ## The accepted lists -/

/-- A list that is read as some tree; the empty list is one of them. -/
def Accepted (tokens : List Token) : Prop :=
  exists tree, parse tokens = .ok tree

theorem accepted_of_accepts {tokens : List Token} {tree : BinaryTree}
    (accepts : reader.Accepts tokens tree) : Accepted tokens := by
  have spelled := accepts_iff_spells.mp accepts
  exact ⟨tree, (parse_eq_ok_iff_of_ne_nil spelled.ne_nil).mpr spelled⟩

theorem viable_iff_prefix_accepted {tokens : List Token} :
    reader.Viable tokens <-> exists accepted, Accepted accepted ∧ tokens <+: accepted := by
  constructor
  · rintro ⟨accepted, tree, accepts, begins⟩
    exact ⟨accepted, accepted_of_accepts accepts, begins⟩
  · rintro ⟨accepted, ⟨tree, finished⟩, begins⟩
    by_cases empty : accepted = []
    · subst accepted
      rw [List.prefix_nil] at begins
      subst tokens
      exact reader_live.viable_of_advance? rfl
    · have spelled := (parse_eq_ok_iff_of_ne_nil empty).mp finished
      exact ⟨accepted, tree, accepts_iff_spells.mpr spelled, begins⟩

/-- The expectation reported behind the given tokens is exact. -/
structure ExactBehind (tokens : List Token) (expected : Option Expected) : Prop where
  /-- The tokens begin an accepted list. -/
  begins : exists accepted, Accepted accepted ∧ tokens <+: accepted
  /-- The end is expected only behind an accepted list. -/
  ended : expected = some .endOfInput -> Accepted tokens
  /-- The tokens that go on towards an accepted list are those that the expectation admits. -/
  continued : forall token,
    (exists accepted, Accepted accepted ∧ tokens ++ [token] <+: accepted) <->
      Continues expected tokens.getLast? token

theorem exactBehind_of_advance? {tokens : List Token} {state : State}
    (reached : reader.advance? reader.start tokens = some state) :
    ExactBehind tokens (reader.demand state).expected? where
  begins := viable_iff_prefix_accepted.mp (reader_live.viable_of_advance? reached)
  ended := by
    intro atEnd
    cases wanted : reader.demand state with
    | complete tree => exact accepted_of_accepts ⟨state, reached, wanted⟩
    | token expected =>
        rw [wanted, Demand.expected?] at atEnd
        subst expected
        exact absurd wanted (demand_ne_endOfInput state)
  continued := by
    intro token
    rw [← viable_iff_prefix_accepted, reader_live.viable_concat_iff reached]
    exact exists_accept_iff (place_eq_listStart_iff_getLast? reached)

/-- Errors of tree literals are reported at the earliest position, and what they expect there is
exact.  An unexpected token is the last one consumed, or the first left unread when the end was
expected; with it no accepted list goes on.  An unexpected end is reported behind all tokens. -/
theorem read_error_exact {tokens : List Token} (nonempty : tokens ≠ []) :
    (forall actual expected rest,
      read tokens = ⟨.error (.unexpectedToken actual expected), rest⟩ ->
        exists index, tokens[index]? = some actual ∧
          rest = tokens.drop (if expected = some .endOfInput then index else index + 1) ∧
          (forall accepted, Accepted accepted -> ¬ tokens.take (index + 1) <+: accepted) ∧
          ExactBehind (tokens.take index) expected) ∧
    (forall expected rest,
      read tokens = ⟨.error (.unexpectedEnd expected), rest⟩ ->
        rest = [] ∧ ExactBehind tokens expected) := by
  rw [read_of_ne_nil nonempty]
  constructor
  · intro actual expected rest failed
    rcases reader.exists_state_of_unexpectedToken demand_ne_endOfInput failed with
      ⟨consumed, state, after, split, reached, refused, reported, unread⟩
    subst tokens
    refine ⟨consumed.length, by simp, ?_, ?_, ?_⟩
    · rw [unread]
      split <;> simp
    · intro accepted member begins
      rw [List.take_length_add_append] at begins
      exact reader.not_viable_concat reached refused
        (viable_iff_prefix_accepted.mpr ⟨accepted, member, begins⟩)
    · rw [List.take_left, ← reported]
      exact exactBehind_of_advance? reached
  · intro expected rest failed
    have ended := Reading.settle_reject_eq_unexpectedEnd_iff.mp failed
    rcases reader.run_eq_unexpectedEnd_iff.mp ended with ⟨nothing, state, reached, wanted⟩
    have behind := exactBehind_of_advance? reached
    rw [wanted] at behind
    exact ⟨nothing, behind⟩

/-- Directly behind a left bracket a comma is too early, and of all tokens only a right bracket and
those that begin a tree can stand there. -/
theorem read_comma_after_lbracket_exact :
    exists index, [Token.punct .lbracket, .punct .comma, Token.name "nil"][index]? =
        some (.punct .comma) ∧
      [Token.name "nil"] = [Token.punct .lbracket, .punct .comma, Token.name "nil"].drop
        (if (none : Option Expected) = some .endOfInput then index else index + 1) ∧
      (forall accepted, Accepted accepted ->
        ¬ [Token.punct .lbracket, .punct .comma, Token.name "nil"].take (index + 1) <+: accepted) ∧
      ExactBehind ([Token.punct .lbracket, .punct .comma, Token.name "nil"].take index) none :=
  (read_error_exact (List.cons_ne_nil _ _)).1 _ _ _ rfl

end BinaryTree
end TreeShapes
