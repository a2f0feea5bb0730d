import TreeShapes.Proofs.EarliestErrors

namespace TreeShapes

/-!
# One token of lookahead decides a reading

A reading stops at the first token that its state refuses.  That token decides
everything: the state reached in front of it is known from the tokens before,
and the state does not look behind it.  Two inputs that agree through this
token are therefore read alike, however they go on, and the same number of
tokens is used up in both.

Only a reading that no token stopped is open.  It has used up its input, and it
may go on in any way when the input does.
-/

/-- What a policy makes of a complete value in front of a leftover token. -/
def Trailing.verdict {α : Type} (value : α) (leftover : Token) : Trailing -> Except ParseError α
  | ignore => .ok value
  | reject => .error (.unexpectedToken leftover (some .endOfInput))

theorem Reading.of_settle_eq_unexpectedToken {α : Type} {reading : Reading α} {trailing : Trailing}
    {token : Token} {expected : Option Expected} {rest : List Token}
    (failed : reading.settle trailing = ⟨.error (.unexpectedToken token expected), rest⟩) :
    reading = ⟨.error (.unexpectedToken token expected), rest⟩ ∨
      trailing = .reject ∧ expected = some .endOfInput ∧
        exists value after, reading = ⟨.ok value, token :: after⟩ := by
  cases trailing with
  | ignore => exact Or.inl failed
  | reject =>
      rcases settle_reject_eq_unexpectedToken_iff.mp failed with early | late
      · exact Or.inl early
      · rcases late with ⟨value, after, finished, atEnd, _⟩
        exact Or.inr ⟨rfl, atEnd, value, after, finished⟩

namespace Reader

variable {σ α : Type} (reader : Reader σ α)

/-- The token decides the reading behind `consumed`.  Whatever follows it, the result is the same,
and so is the number of tokens used up. -/
def Decides (trailing : Trailing) (consumed : List Token) (token : Token)
    (result : Except ParseError α) (count : Nat) : Prop :=
  forall after, (reader.read (consumed ++ token :: after)).settle trailing =
    ⟨result, (consumed ++ token :: after).drop count⟩

/-! ## A refused token decides -/

section Refused

variable {consumed : List Token} {state : σ} {token : Token}

theorem decides_of_incomplete (trailing : Trailing) {expected : Option Expected}
    (reached : reader.advance? reader.start consumed = some state)
    (refused : reader.accept state token = none)
    (wanted : reader.demand state = .token expected) :
    reader.Decides trailing consumed token (.error (.unexpectedToken token expected))
      (consumed.length + 1) := by
  intro after
  have failed : reader.read (consumed ++ token :: after) =
      ⟨.error (.unexpectedToken token expected), after⟩ :=
    reader.run_eq_unexpectedToken_iff.mpr ⟨consumed, state, rfl, reached, wanted, refused⟩
  have behind : (consumed ++ token :: after).drop (consumed.length + 1) = after := by
    simp
  rw [failed, behind]
  cases trailing <;> rfl

theorem decides_of_complete (trailing : Trailing) {value : α}
    (reached : reader.advance? reader.start consumed = some state)
    (refused : reader.accept state token = none)
    (complete : reader.demand state = .complete value) :
    reader.Decides trailing consumed token (trailing.verdict value token) consumed.length := by
  intro after
  have finished : reader.read (consumed ++ token :: after) = ⟨.ok value, token :: after⟩ :=
    reader.run_eq_ok_iff.mpr
      ⟨consumed, state, rfl, reached, complete, reader.refuses_cons_iff.mpr refused⟩
  rw [finished, List.drop_left]
  cases trailing <;> rfl

end Refused

/-! ## What was decided by a token -/

/-- An unexpected token decides the reading that reports it.  It is used up, unless the input should
have ended in front of it. -/
theorem exists_decides_of_unexpectedToken
    (silent : forall state, reader.demand state ≠ .token (some .endOfInput))
    {trailing : Trailing} {tokens rest : List Token} {actual : Token} {expected : Option Expected}
    (failed : (reader.read tokens).settle trailing =
      ⟨.error (.unexpectedToken actual expected), rest⟩) :
    exists consumed after, tokens = consumed ++ actual :: after ∧
      reader.Decides trailing consumed actual (.error (.unexpectedToken actual expected))
        (if expected = some .endOfInput then consumed.length else consumed.length + 1) := by
  rcases Reading.of_settle_eq_unexpectedToken failed with
    early | ⟨rejecting, atEnd, value, after, finished⟩
  · rcases reader.run_eq_unexpectedToken_iff.mp early with
      ⟨consumed, state, split, reached, wanted, refused⟩
    have different : expected ≠ some .endOfInput := by
      intro atEnd
      subst atEnd
      exact silent state wanted
    refine ⟨consumed, rest, split, ?_⟩
    rw [if_neg different]
    exact reader.decides_of_incomplete trailing reached refused wanted
  · rcases reader.run_eq_ok_iff.mp finished with
      ⟨consumed, state, split, reached, complete, refused⟩
    subst rejecting atEnd
    refine ⟨consumed, after, split, ?_⟩
    rw [if_pos rfl]
    exact reader.decides_of_complete .reject reached (reader.refuses_cons_iff.mp refused) complete

theorem exists_decides_of_leftover {trailing : Trailing} {tokens after : List Token}
    {leftover : Token} {value : α}
    (finished : (reader.read tokens).settle trailing = ⟨.ok value, leftover :: after⟩) :
    exists consumed, tokens = consumed ++ leftover :: after ∧
      reader.Decides trailing consumed leftover (.ok value) consumed.length := by
  cases trailing with
  | ignore =>
      rcases reader.run_eq_ok_iff.mp finished with
        ⟨consumed, state, split, reached, complete, refused⟩
      refine ⟨consumed, split, ?_⟩
      exact reader.decides_of_complete .ignore reached (reader.refuses_cons_iff.mp refused) complete
  | reject =>
      have nothing := (Reading.settle_reject_eq_ok_iff.mp finished).2
      cases nothing

theorem Decides.settle_read_eq {reader : Reader σ α} {trailing : Trailing}
    {consumed other : List Token} {token : Token} {result : Except ParseError α} {count : Nat}
    (decided : reader.Decides trailing consumed token result count)
    (begins : consumed ++ [token] <+: other) :
    (reader.read other).settle trailing = ⟨result, other.drop count⟩ := by
  rcases begins with ⟨after, same⟩
  rw [← same, List.append_assoc, List.singleton_append]
  exact decided after

end Reader

namespace TypeExpr

theorem read_eq_of_decides {config : Config} {consumed : List Token} {token : Token}
    {result : Except ParseError TypeExpr} {count : Nat}
    (decided : (reader config).Decides config.trailing consumed token result count)
    (after other : List Token)
    (agree : other.take (consumed.length + 1) =
      (consumed ++ token :: after).take (consumed.length + 1)) :
    read config other = ⟨result, other.drop count⟩ := by
  have begins : consumed ++ [token] <+: other := by
    rw [List.take_length_add_append] at agree
    change _ = consumed ++ [token] at agree
    rw [← agree]
    exact List.take_prefix _ other
  have nonempty : other ≠ [] := begins.ne_nil (by simp)
  rw [read_of_ne_nil config nonempty]
  exact decided.settle_read_eq begins

/-- One token of lookahead decides a reading.  An unexpected token is the last one used up, or the
first left unread when the end was expected; every input that agrees through it fails with the same
error and uses up the same number of tokens.  In the same way a success in front of a leftover token
is shared by every input that agrees through that token. -/
theorem read_decided_by_one_token (config : Config) {tokens : List Token} (nonempty : tokens ≠ []) :
    (forall actual expected rest,
      read config tokens = ⟨.error (.unexpectedToken actual expected), rest⟩ ->
        exists index, tokens[index]? = some actual ∧
          rest = tokens.drop (if expected = some .endOfInput then index else index + 1) ∧
          forall other, other.take (index + 1) = tokens.take (index + 1) ->
            read config other = ⟨.error (.unexpectedToken actual expected),
              other.drop (if expected = some .endOfInput then index else index + 1)⟩) ∧
    (forall expr rest,
      read config tokens = ⟨.ok expr, rest⟩ -> rest ≠ [] ->
        exists count, count < tokens.length ∧ rest = tokens.drop count ∧
          forall other, other.take (count + 1) = tokens.take (count + 1) ->
            read config other = ⟨.ok expr, other.drop count⟩) := by
  have settled := read_of_ne_nil config nonempty
  constructor
  · intro actual expected rest failed
    rcases (reader config).exists_decides_of_unexpectedToken demand_ne_endOfInput
      (settled.symm.trans failed) with ⟨consumed, after, split, decided⟩
    subst split
    have alike := read_eq_of_decides decided after
    have own := failed.symm.trans (alike _ rfl)
    exact ⟨consumed.length, by simp, (Reading.mk.inj own).2, alike⟩
  · intro expr rest finished left
    rcases List.exists_cons_of_ne_nil left with ⟨leftover, after, same⟩
    subst same
    rcases (reader config).exists_decides_of_leftover (settled.symm.trans finished) with
      ⟨consumed, split, decided⟩
    subst split
    have alike := read_eq_of_decides decided after
    have own := finished.symm.trans (alike _ rfl)
    exact ⟨consumed.length, by simp, (Reading.mk.inj own).2, alike⟩

/-- A right parenthesis where the right child is due, and a name behind a list: what stands behind
the parenthesis or behind the name has no influence. -/
theorem read_decided_by_rparen_and_name :
    (exists index, [Token.punct .langle, filler, .punct .dot, .punct .rparen, filler][index]? =
        some (.punct .rparen) ∧
      [filler] = [Token.punct .langle, filler, .punct .dot, .punct .rparen, filler].drop
        (if (none : Option Expected) = some .endOfInput then index else index + 1) ∧
      forall other, other.take (index + 1) =
          [Token.punct .langle, filler, .punct .dot, .punct .rparen, filler].take (index + 1) ->
        read .strict other = ⟨.error (.unexpectedToken (.punct .rparen) none),
          other.drop (if (none : Option Expected) = some .endOfInput then index else index + 1)⟩) ∧
    (exists count,
      count < [filler, .punct .lbracket, .punct .rbracket, Token.name "b", .punct .bar].length ∧
      [Token.name "b", .punct .bar] =
        [filler, .punct .lbracket, .punct .rbracket, Token.name "b", .punct .bar].drop count ∧
      forall other, other.take (count + 1) =
          [filler, .punct .lbracket, .punct .rbracket, Token.name "b", .punct .bar].take
            (count + 1) ->
        read .standard other = ⟨.ok (.list (leaf (.name "nil"))), other.drop count⟩) :=
  ⟨(read_decided_by_one_token .strict (List.cons_ne_nil _ _)).1 _ _ _ rfl,
    (read_decided_by_one_token .standard (List.cons_ne_nil _ _)).2 _ _ rfl (List.cons_ne_nil _ _)⟩

end TypeExpr
end TreeShapes
