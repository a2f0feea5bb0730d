import TreeShapes.Proofs.TypeGrammar

namespace TreeShapes
namespace TypeExpr

/-!
# Errors of type expressions are earliest

Wherever a reading stands, some tokens bring it to an end: first the place is
brought behind an atom, then every open bracket is closed from the inside out.
A complete expression follows from every state, so the reader is live, and the
token that it fails on is the first one that no accepted list has there.
-/

/-! ## Bringing a reading to an end -/

/-- A literal that stands where any atom would do. -/
def filler : Token :=
  Token.name Literal.nilSpelling

/-- Tokens that lead from a place to the place behind an atom. -/
def Place.completion : Place -> List Token
  | atom => [filler]
  | listStart => [.punct .rbracket]
  | element _ => [.punct .ellipsis, .punct .rbracket]
  | openEnd _ => [.punct .rbracket]
  | after _ => []
  | suffix _ => [.punct .rbracket]

/-- Tokens that close a bracket, behind the alternatives read last inside it. -/
def Bracket.completion : Bracket -> List Token
  | group => [.punct .rparen]
  | left => [.punct .dot, filler, .punct .rangle]
  | right _ => [.punct .rangle]
  | items _ => [.punct .rbracket]

/-- Tokens that lead from a state to a complete expression. -/
def State.completion (state : State) : List Token :=
  state.place.completion ++ state.frames.flatMap fun frame => frame.bracket.completion

theorem advance?_placeCompletion (config : Config) (place : Place) (members : List Alternative)
    (frames : List Frame) :
    exists atom, (reader config).advance? ⟨place, members, frames⟩ place.completion =
      some ⟨.after atom, members, frames⟩ := by
  cases place <;> exact ⟨_, rfl⟩

theorem advance?_bracketCompletion (config : Config) (atom : TypeExpr)
    (members outer : List Alternative) (bracket : Bracket) (frames : List Frame) :
    exists value, (reader config).advance? ⟨.after atom, members, ⟨bracket, outer⟩ :: frames⟩
      bracket.completion = some ⟨.after value, outer, frames⟩ := by
  cases bracket <;> exact ⟨_, rfl⟩

/-- Closing the open brackets one after the other ends outside all of them. -/
theorem advance?_framesCompletion (config : Config) (atom : TypeExpr)
    (members : List Alternative) (frames : List Frame) :
    exists last expr, (reader config).advance? ⟨.after atom, members, frames⟩
      (frames.flatMap fun frame => frame.bracket.completion) = some last ∧
        demand last = .complete expr := by
  induction frames generalizing atom members with
  | nil => exact ⟨_, _, rfl, rfl⟩
  | cons frame frames inductionHypothesis =>
      rcases advance?_bracketCompletion config atom members frame.outer frame.bracket frames with
        ⟨value, closed⟩
      rw [List.flatMap_cons, Reader.advance?_append_of_eq _ closed]
      exact inductionHypothesis value frame.outer

theorem reader_live (config : Config) : (reader config).Live := by
  intro state
  rcases state with ⟨place, members, frames⟩
  rcases advance?_placeCompletion config place members frames with ⟨atom, behind⟩
  rcases advance?_framesCompletion config atom members frames with ⟨last, expr, closed, complete⟩
  refine ⟨State.completion ⟨place, members, frames⟩, last, expr, ?_, complete⟩
  rw [State.completion, Reader.advance?_append_of_eq _ behind, closed]

/-- The reader itself never asks for the end; only the verdict on leftover tokens does. -/
theorem demand_ne_endOfInput (state : State) : demand state ≠ .token (some .endOfInput) := by
  rcases state with ⟨place, members, frames⟩
  intro asked
  cases place with
  | after atom =>
      cases frames with
      | nil => cases asked
      | cons frame frames =>
          rcases frame with ⟨bracket, outer⟩
          cases bracket <;> cases asked
  | _ => cases asked

/-! ## The accepted lists of a configuration -/

/-- A nonempty list that is read as some expression. -/
def Accepted (config : Config) (tokens : List Token) : Prop :=
  tokens ≠ [] ∧ exists expr, parse config tokens = .ok expr

theorem accepted_iff {config : Config} (rejecting : config.trailing = .reject)
    {tokens : List Token} :
    Accepted config tokens <-> exists expr, (reader config).Accepts tokens expr := by
  constructor
  · rintro ⟨nonempty, expr, finished⟩
    have spelled := (parse_eq_ok_iff_of_reject rejecting nonempty).mp finished
    exact ⟨expr, accepts_iff_spells.mpr spelled⟩
  · rintro ⟨expr, accepts⟩
    have spelled := accepts_iff_spells.mp accepts
    exact ⟨spelled.ne_nil, expr, by rw [parse, spelled.read_eq]⟩

theorem viable_iff_prefix_accepted {config : Config} (rejecting : config.trailing = .reject)
    {tokens : List Token} :
    (reader config).Viable tokens <->
      exists accepted, Accepted config accepted ∧ tokens <+: accepted := by
  constructor
  · rintro ⟨accepted, expr, accepts, begins⟩
    exact ⟨accepted, (accepted_iff rejecting).mpr ⟨expr, accepts⟩, begins⟩
  · rintro ⟨accepted, member, begins⟩
    rcases (accepted_iff rejecting).mp member with ⟨expr, accepts⟩
    exact ⟨accepted, expr, accepts, begins⟩

/-- With leftover tokens rejected, every error is reported at the earliest position.  An unexpected
token is the first one with which no accepted list goes on; it is the last token consumed, or the
first left unread when the input should have ended there.  An unexpected end leaves nothing
unread, and the input properly begins an accepted list. -/
theorem read_error_earliest (config : Config) (rejecting : config.trailing = .reject)
    {tokens : List Token} (nonempty : tokens ≠ []) :
    (forall actual expected rest,
      read config tokens = ⟨.error (.unexpectedToken actual expected), rest⟩ ->
        exists index, tokens[index]? = some actual ∧
          (exists accepted, Accepted config accepted ∧ tokens.take index <+: accepted) ∧
          (forall accepted, Accepted config accepted -> ¬ tokens.take (index + 1) <+: accepted) ∧
          rest = tokens.drop (if expected = some .endOfInput then index else index + 1)) ∧
    (forall expected rest,
      read config tokens = ⟨.error (.unexpectedEnd expected), rest⟩ ->
        rest = [] ∧ ¬ Accepted config tokens ∧
          exists accepted, Accepted config accepted ∧ tokens <+: accepted ∧
            tokens ≠ accepted) := by
  rw [read_of_ne_nil config nonempty, rejecting]
  constructor
  · intro actual expected rest failed
    rcases (reader_live config).earliest_of_unexpectedToken demand_ne_endOfInput failed with
      ⟨consumed, after, split, viable, spoiled, unread⟩
    subst tokens
    rw [viable_iff_prefix_accepted rejecting] at viable spoiled
    have through : (consumed ++ actual :: after).take (consumed.length + 1) =
        consumed ++ [actual] := by
      rw [List.append_cons]
      exact List.take_left' (by simp)
    refine ⟨consumed.length, by simp, ?_, ?_, ?_⟩
    · simpa only [List.take_left] using viable
    · intro accepted member begins
      rw [through] at begins
      exact spoiled ⟨accepted, member, begins⟩
    · rw [unread]
      split <;> simp
  · intro expected rest failed
    rcases (reader_live config).earliest_of_unexpectedEnd failed with
      ⟨nothing, unaccepted, viable⟩
    have rejected : ¬ Accepted config tokens := by
      rw [accepted_iff rejecting]
      rintro ⟨expr, accepts⟩
      exact unaccepted expr accepts
    rcases (viable_iff_prefix_accepted rejecting).mp viable with ⟨accepted, member, begins⟩
    refine ⟨nothing, rejected, accepted, member, begins, ?_⟩
    rintro rfl
    exact rejected member

/-- After `<nil` a closing mark is too early: every accepted continuation has a dot there, or more
of the left child. -/
theorem read_tree_without_dot_earliest :
    exists index, [Token.punct .langle, filler, .punct .rangle][index]? = some (.punct .rangle) ∧
      (exists accepted, Accepted .strict accepted ∧
        [Token.punct .langle, filler, .punct .rangle].take index <+: accepted) ∧
      (forall accepted, Accepted .strict accepted ->
        ¬ [Token.punct .langle, filler, .punct .rangle].take (index + 1) <+: accepted) ∧
      [] = [Token.punct .langle, filler, .punct .rangle].drop
        (if some (Expected.token (.punct .dot)) = some .endOfInput then index else index + 1) :=
  (read_error_earliest .strict rfl (List.cons_ne_nil _ _)).1 _ _ _ rfl

end TypeExpr
end TreeShapes
