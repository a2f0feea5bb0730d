import TreeShapes.Proofs.EarliestErrors

namespace TreeShapes
namespace TypeExpr

/-!
# Errors of type expressions can be trusted in what they expect

An error tells what its position would have accepted.  The reader computes that
from the state in which it stopped, and since it is live, the tokens that can
follow are those that this state accepts.  The two are compared place by place.

Behind an open suffix or an ellipsis, one mark is expected and nothing else is
accepted.  Behind an atom inside a bracket, the marks that end the level are
expected; the atom itself can still be followed by a suffix or a bar, which an
error does not mention.  Outside all brackets only these two remain, and the
end is expected.  Where an atom is due an error expects nothing in particular,
and every token that begins an atom is accepted.
-/

/-- The list begins a nonempty one that is read as an expression. -/
def Viable (config : Config) (tokens : List Token) : Prop :=
  exists accepted, Accepted config accepted ∧ tokens <+: accepted

/-- The tokens that go on with a level behind one of its atoms. -/
def ExtendsLevel (token : Token) : Prop :=
  token = .punct .bar ∨ token = .punct .lbracket

/-- The tokens that begin an atom. -/
def BeginsAtom (token : Token) : Prop :=
  (exists literal, token = .literal literal) ∨ token = .punct .langle ∨
    token = .punct .lparen ∨ token = .punct .lbracket

/-! ## What a state accepts and what it reports -/

section States

variable {config : Config} {token : Token}

theorem BeginsAtom.exists_beginAtom (begins : BeginsAtom token) (members : List Alternative)
    (frames : List Frame) : exists next, beginAtom members frames token = some next := by
  rcases begins with ⟨literal, rfl⟩ | rfl | rfl | rfl
  all_goals exact ⟨_, rfl⟩

/-- The ellipsis of a fixed list is none of the tokens that begin an atom. -/
theorem BeginsAtom.beginElement_eq (begins : BeginsAtom token) (members : List Alternative)
    (frames : List Frame) (done : List TypeExpr) :
    beginElement members frames done token =
      beginAtom [] (⟨.items done, members⟩ :: frames) token := by
  rcases begins with ⟨literal, rfl⟩ | rfl | rfl | rfl
  all_goals rfl

theorem exists_accept_of_beginsAtom {state : State} (due : demand state = .token none)
    (begins : BeginsAtom token) : exists next, accept config state token = some next := by
  rcases state with ⟨place, members, frames⟩
  cases place with
  | atom => exact begins.exists_beginAtom members frames
  | listStart =>
      have notClosing : token ≠ .punct .rbracket := by
        rintro rfl
        rcases begins with ⟨literal, same⟩ | same | same | same <;> cases same
      rw [accept_listStart_of_ne notClosing, begins.beginElement_eq]
      exact begins.exists_beginAtom _ _
  | element done =>
      change exists next, beginElement members frames done token = some next
      rw [begins.beginElement_eq]
      exact begins.exists_beginAtom _ _
  | openEnd done => cases due
  | suffix atom => cases due
  | after atom => cases frames <;> cases due

/-- A bracket is left or continued by exactly the marks that it reports. -/
theorem exists_leaveBracket_iff {inner : TypeExpr} {frame : Frame} {frames : List Frame} :
    (exists next, leaveBracket config inner frame frames token = some next) <->
      token ∈ frame.bracket.expected.tokens := by
  rcases frame with ⟨bracket, outer⟩
  cases token with
  | literal literal => cases bracket <;> simp [leaveBracket, Bracket.expected]
  | punct mark => cases bracket <;> cases mark <;> simp [leaveBracket, Bracket.expected]

theorem ExtendsLevel.exists_followAtom (extended : ExtendsLevel token) (config : Config)
    (members : List Alternative) (frames : List Frame) (atom : TypeExpr) :
    exists next, followAtom config members frames atom token = some next := by
  rcases extended with rfl | rfl
  all_goals exact ⟨_, rfl⟩

theorem exists_followAtom_iff {atom : TypeExpr} {members : List Alternative} {frame : Frame}
    {frames : List Frame} :
    (exists next, followAtom config members (frame :: frames) atom token = some next) <->
      token ∈ frame.bracket.expected.tokens ∨ ExtendsLevel token := by
  by_cases extended : ExtendsLevel token
  · have followed := extended.exists_followAtom config members (frame :: frames) atom
    exact iff_of_true followed (Or.inr extended)
  · have neither : token ≠ .punct .bar ∧ token ≠ .punct .lbracket := not_or.mp extended
    rw [followAtom_cons_of_ne neither.2 neither.1, exists_leaveBracket_iff]
    simp only [extended, or_false]

/-- A state with an expectation accepts the tokens that it names.  Only behind an atom it accepts
others, and these extend the level. -/
theorem exists_accept_iff_of_expected {state : State} {wanted : Expected}
    (reported : demand state = .token (some wanted)) :
    (exists next, accept config state token = some next) <->
      token ∈ wanted.tokens ∨ ((exists atom, state.place = .after atom) ∧ ExtendsLevel token) := by
  rcases state with ⟨place, members, frames⟩
  cases place with
  | atom => cases reported
  | listStart => cases reported
  | element done => cases reported
  | openEnd done =>
      cases reported
      simp [accept_openEnd_eq_some_iff]
  | suffix atom =>
      cases reported
      simp [accept_suffix_eq_some_iff]
  | after atom =>
      cases frames with
      | nil => cases reported
      | cons frame frames =>
          cases reported
          change (exists next, followAtom config members (frame :: frames) atom token =
            some next) <-> _
          rw [exists_followAtom_iff]
          simp

/-- A complete expression goes on exactly with the tokens that extend its level. -/
theorem exists_accept_iff_of_complete {state : State} {expr : TypeExpr}
    (complete : demand state = .complete expr) :
    (exists next, accept config state token = some next) <-> ExtendsLevel token := by
  by_cases extended : ExtendsLevel token
  · rcases demand_eq_complete_iff.mp complete with ⟨atom, members, rfl, _⟩
    have followed := extended.exists_followAtom config members [] atom
    exact iff_of_true followed extended
  · have refused : accept config state token = none :=
      (accept_eq_none_iff_of_complete complete).mpr (not_or.mp extended)
    simp [refused, extended]

end States

/-! ## What an error is worth -/

/-- The expectation reported behind the given tokens can be trusted. -/
structure ReliableBehind (config : Config) (tokens : List Token) (expected : Option Expected) :
    Prop where
  /-- Every token that is named can follow. -/
  named : forall wanted, expected = some wanted ->
    forall token, token ∈ wanted.tokens -> Viable config (tokens ++ [token])
  /-- What can follow is named, or extends the level of an atom. -/
  covered : forall wanted, expected = some wanted ->
    forall token, Viable config (tokens ++ [token]) -> token ∈ wanted.tokens ∨ ExtendsLevel token
  /-- The end is expected behind an accepted list, which goes on only by extending its level. -/
  ended : expected = some .endOfInput ->
    Accepted config tokens ∧
      forall token, Viable config (tokens ++ [token]) <-> ExtendsLevel token
  /-- Nothing is named where an atom is due. -/
  due : expected = none ->
    forall token, BeginsAtom token -> Viable config (tokens ++ [token])

section Reached

variable {config : Config} {tokens : List Token} {state : State}

theorem viable_concat_iff (rejecting : config.trailing = .reject)
    (reached : (reader config).advance? (reader config).start tokens = some state)
    (token : Token) :
    Viable config (tokens ++ [token]) <-> exists next, accept config state token = some next := by
  rw [Viable, ← viable_iff_prefix_accepted rejecting,
    (reader_live config).viable_concat_iff reached]
  exact Iff.rfl

theorem reliableBehind_of_advance? (rejecting : config.trailing = .reject)
    (reached : (reader config).advance? (reader config).start tokens = some state) :
    ReliableBehind config tokens (demand state).expected? := by
  have follows := viable_concat_iff rejecting reached
  cases wanted : demand state with
  | complete expr =>
      have accepted : Accepted config tokens :=
        (accepted_iff rejecting).mpr ⟨expr, state, reached, wanted⟩
      have extended : forall token, Viable config (tokens ++ [token]) <-> ExtendsLevel token := by
        intro token
        rw [follows, exists_accept_iff_of_complete wanted]
      refine ⟨?_, ?_, fun _ => ⟨accepted, extended⟩, ?_⟩
      · intro _ same token listed
        cases same
        cases listed
      · intro _ _ token viable
        exact Or.inr ((extended token).mp viable)
      · intro nothing
        cases nothing
  | token expected =>
      change ReliableBehind config tokens expected
      refine ⟨?_, ?_, ?_, ?_⟩
      · intro marks same token listed
        subst same
        exact (follows token).mpr ((exists_accept_iff_of_expected wanted).mpr (Or.inl listed))
      · intro marks same token viable
        subst same
        have accepted := (exists_accept_iff_of_expected wanted).mp ((follows token).mp viable)
        exact accepted.imp_right And.right
      · intro atEnd
        subst atEnd
        exact absurd wanted (demand_ne_endOfInput state)
      · intro nothing token begins
        subst nothing
        exact (follows token).mpr (exists_accept_of_beginsAtom wanted begins)

end Reached

/-- With leftover tokens rejected, what an error says was expected is right.  It is about the
position of the unexpected token, which is the last one consumed, or the first left unread when the
end was expected; or about the position behind all tokens, when these ended too early. -/
theorem read_error_reliable (config : Config) (rejecting : config.trailing = .reject)
    {tokens : List Token} (nonempty : tokens ≠ []) :
    (forall actual expected rest,
      read config tokens = ⟨.error (.unexpectedToken actual expected), rest⟩ ->
        exists index, tokens[index]? = some actual ∧
          rest = tokens.drop (if expected = some .endOfInput then index else index + 1) ∧
          ReliableBehind config (tokens.take index) expected) ∧
    (forall expected rest,
      read config tokens = ⟨.error (.unexpectedEnd expected), rest⟩ ->
        rest = [] ∧ ReliableBehind config tokens expected) := by
  rw [read_of_ne_nil config nonempty, rejecting]
  constructor
  · intro actual expected rest failed
    rcases (reader config).exists_state_of_unexpectedToken demand_ne_endOfInput failed with
      ⟨consumed, state, after, split, reached, refused, reported, unread⟩
    subst tokens
    refine ⟨consumed.length, by simp, ?_, ?_⟩
    · rw [unread]
      split <;> simp
    · rw [List.take_left, ← reported]
      exact reliableBehind_of_advance? rejecting reached
  · intro expected rest failed
    have ended := Reading.settle_reject_eq_unexpectedEnd_iff.mp failed
    rcases (reader config).run_eq_unexpectedEnd_iff.mp ended with ⟨nothing, state, reached, wanted⟩
    have reliable := reliableBehind_of_advance? rejecting reached
    have reported : demand state = .token expected := wanted
    rw [reported] at reliable
    exact ⟨nothing, reliable⟩

/-- Behind the first element of a list a right parenthesis is refused.  The comma and the right
bracket that the error names can both stand there, and beside them only what extends the level. -/
theorem read_rparen_in_list_reliable :
    exists index, [Token.punct .lbracket, filler, .punct .rparen][index]? =
        some (.punct .rparen) ∧
      [] = [Token.punct .lbracket, filler, .punct .rparen].drop
        (if some (Expected.oneOf [.punct .comma, .punct .rbracket]) = some .endOfInput then index
          else index + 1) ∧
      ReliableBehind .strict ([Token.punct .lbracket, filler, .punct .rparen].take index)
        (some (.oneOf [.punct .comma, .punct .rbracket])) :=
  (read_error_reliable .strict rfl (List.cons_ne_nil _ _)).1 _ _ _ rfl

end TypeExpr
end TreeShapes
