import TreeShapes.Proofs.Groupings

namespace TreeShapes

/-!
# Groups with the same meaning are interchangeable

A reading sees a group through the state behind it and through nothing else.
Wherever a reader takes a left parenthesis, a level of alternatives begins that
does not look at what surrounds it, and the right parenthesis leaves nothing of
that level but its expression.  Two groups that spell the same expression
therefore lead to the same state.

Wherever a reader does not take the left parenthesis, or has stopped before it,
the group is not looked at.  A reader reports what it does at the token that
stopped it, so the result is the same even where the tokens around the group
make no sense.
-/

namespace Reader

variable {σ α : Type} (reader : Reader σ α)

/-! ## Results are decided by the token that stops the reading -/

theorem result_settle_run_of_refused (trailing : Trailing) {state : σ} {token : Token}
    (refused : reader.accept state token = none) (first second : List Token) :
    ((reader.run state (token :: first)).settle trailing).result =
      ((reader.run state (token :: second)).settle trailing).result := by
  simp only [run, refused]
  cases reader.demand state with
  | complete value => cases trailing <;> rfl
  | token expected => cases trailing <;> rfl

/-- Two inputs that part behind a common token have the same result, provided that they are read
alike from every state in which that token has been accepted. -/
theorem result_settle_run_congr (trailing : Trailing) {opening : Token} {first second : List Token}
    (alike : forall state next, reader.accept state opening = some next ->
      reader.run next first = reader.run next second)
    (state : σ) (before : List Token) :
    ((reader.run state (before ++ opening :: first)).settle trailing).result =
      ((reader.run state (before ++ opening :: second)).settle trailing).result := by
  induction before generalizing state with
  | nil =>
      cases accepted : reader.accept state opening with
      | none => exact reader.result_settle_run_of_refused trailing accepted first second
      | some next =>
          have inside := alike state next accepted
          simp only [List.nil_append, run, accepted, inside]
  | cons token before inductionHypothesis =>
      cases accepted : reader.accept state token with
      | none => exact reader.result_settle_run_of_refused trailing accepted _ _
      | some next =>
          simp only [List.cons_append, run, accepted]
          exact inductionHypothesis next

end Reader

namespace TypeExpr

/-! ## Groups -/

theorem eq_group_of_accept_lparen {config : Config} {state next : State}
    (accepted : accept config state (.punct .lparen) = some next) :
    exists outer frames, next = ⟨.atom, [], ⟨.group, outer⟩ :: frames⟩ := by
  rcases state with ⟨place, members, frames⟩
  cases place with
  | atom =>
      cases accepted
      exact ⟨members, frames, rfl⟩
  | listStart =>
      cases accepted
      exact ⟨[], ⟨.items [], members⟩ :: frames, rfl⟩
  | element done =>
      cases accepted
      exact ⟨[], ⟨.items done, members⟩ :: frames, rfl⟩
  | openEnd done => cases accepted
  | after atom =>
      cases frames with
      | nil => cases accepted
      | cons frame frames =>
          rcases frame with ⟨bracket, outer⟩
          cases bracket <;> cases accepted
  | suffix atom => cases accepted

theorem Spells.advance?_group {config : Config} {tokens : List Token} {expr : TypeExpr}
    (spelled : Spells config tokens expr) (outer : List Alternative) (frames : List Frame) :
    (reader config).advance? ⟨.atom, [], ⟨.group, outer⟩ :: frames⟩
      (tokens ++ [.punct .rparen]) = some ⟨.after expr, outer, frames⟩ := by
  rcases spelled with ⟨members, level, rfl⟩
  rcases level.advance?_eq (⟨.group, outer⟩ :: frames) with ⟨before, atom, rfl, reached⟩
  rw [Reader.advance?_append_of_eq _ reached]
  rfl

/-- If two pieces are read as the same expression, a group around the first can be exchanged for a
group around the second.  Nothing is asked of the tokens before and after the group, and errors are
the same as well. -/
theorem parse_group_interchange (config : Config) (before after : List Token)
    (first second : Piece (config.withTrailing .reject)) (same : first.expr = second.expr) :
    parse config (before ++ .punct .lparen :: (first.tokens ++ .punct .rparen :: after)) =
      parse config (before ++ .punct .lparen :: (second.tokens ++ .punct .rparen :: after)) := by
  have nonempty : forall inner : List Token, before ++ .punct .lparen :: inner ≠ [] := by
    intro inner
    exact List.append_ne_nil_of_right_ne_nil before (List.cons_ne_nil _ _)
  rw [parse, parse, read_of_ne_nil config (nonempty _), read_of_ne_nil config (nonempty _)]
  apply (reader config).result_settle_run_congr config.trailing
  intro state next accepted
  rcases eq_group_of_accept_lparen accepted with ⟨outer, frames, rfl⟩
  have firstInside := first.spells.advance?_group outer frames
  have secondInside := second.spells.advance?_group outer frames
  rw [← same] at secondInside
  rw [List.append_cons first.tokens, List.append_cons second.tokens,
    Reader.run_append _ firstInside, Reader.run_append _ secondInside]

theorem parse_group_before_missing_child :
    parse .standard [.punct .langle, .punct .lparen, Token.name "a", .punct .bar, Token.name "b",
        .punct .rparen, .punct .dot, .punct .rangle] =
      .error (.unexpectedToken (.punct .rangle) none) ∧
    parse .standard [.punct .langle, .punct .lparen, Token.name "a", .punct .bar, Token.name "b",
        .punct .rparen, .punct .dot, .punct .rangle] =
      parse .standard [.punct .langle, .punct .lparen, .punct .lparen, .punct .lparen,
        Token.name "a", .punct .rparen, .punct .bar, Token.name "b", .punct .rparen,
        .punct .rparen, .punct .dot, .punct .rangle] :=
  let plain : Piece .strict :=
    ⟨[Token.name "a", .punct .bar, Token.name "b"],
      choice [.leaf (.name "a"), .leaf (.name "b")], List.cons_ne_nil _ _, rfl⟩
  let grouped : Piece .strict :=
    ⟨[.punct .lparen, .punct .lparen, Token.name "a", .punct .rparen, .punct .bar, Token.name "b",
        .punct .rparen],
      choice [.leaf (.name "a"), .leaf (.name "b")], List.cons_ne_nil _ _, rfl⟩
  ⟨rfl, parse_group_interchange .standard [.punct .langle] [.punct .dot, .punct .rangle] plain
    grouped rfl⟩

end TypeExpr
end TreeShapes
