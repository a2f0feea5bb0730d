import TreeShapes.Proofs.TypeGrammar

namespace TreeShapes
namespace TypeExpr

/-!
# Strict and permissive readings differ only on leftover tokens

The policy for leftover tokens is consulted once, behind the reading proper.  A
strict reading is therefore the permissive one with a last verdict, and that
verdict changes nothing but a success in front of a leftover token.  What was
consumed before that token is a complete expression by itself: the strict
reading of these tokens alone succeeds with the same result.
-/

section Policies

variable {permissive strict : Config}

theorem read_strict_eq_settle (ignores : permissive.trailing = .ignore)
    (alike : strict = permissive.withTrailing .reject) (tokens : List Token) :
    read strict tokens = (read permissive tokens).settle .reject := by
  subst alike
  cases tokens with
  | nil => rfl
  | cons token tokens =>
      have longest : readLongest (permissive.withTrailing .reject) = readLongest permissive := rfl
      change (readLongest (permissive.withTrailing .reject) _).settle .reject =
        ((readLongest permissive _).settle permissive.trailing).settle .reject
      rw [longest, ignores, Reading.settle_ignore]

theorem read_strict_of_consumed (ignores : permissive.trailing = .ignore)
    (alike : strict = permissive.withTrailing .reject) {tokens rest : List Token} {expr : TypeExpr}
    (nonempty : tokens ≠ []) (finished : read permissive tokens = ⟨.ok expr, rest⟩) :
    exists consumed, consumed ≠ [] ∧ tokens = consumed ++ rest ∧
      read strict consumed = ⟨.ok expr, []⟩ := by
  rcases exists_spells_of_read nonempty finished with ⟨consumed, split, spelled⟩
  refine ⟨consumed, spelled.ne_nil, split, ?_⟩
  rw [read_strict_eq_settle ignores alike, spelled.read_eq]
  rfl

end Policies

/-- Of two configurations that differ in the policy for leftover tokens only, the strict one leaves
the same tokens and returns the same as the permissive one, except where the latter succeeds in
front of a leftover token.  There the strict reading reports that token, and it succeeds on the
consumed tokens alone. -/
theorem read_strict_differs_only_on_leftovers (permissive strict : Config)
    (ignores : permissive.trailing = .ignore)
    (alike : strict = permissive.withTrailing .reject) (tokens : List Token) :
    (read strict tokens).rest = (read permissive tokens).rest ∧
    (forall error, (read permissive tokens).result = .error error ->
      (read strict tokens).result = .error error) ∧
    (forall expr, (read permissive tokens).result = .ok expr ->
      (read permissive tokens).rest = [] ∨ tokens = [] ->
        (read strict tokens).result = .ok expr) ∧
    (forall expr leftover rest, tokens ≠ [] ->
      read permissive tokens = ⟨.ok expr, leftover :: rest⟩ ->
        (read strict tokens).result = .error (.unexpectedToken leftover (some .endOfInput)) ∧
        exists consumed, consumed ≠ [] ∧ tokens = consumed ++ leftover :: rest ∧
          read strict consumed = ⟨.ok expr, []⟩) := by
  have settled := read_strict_eq_settle ignores alike tokens
  refine ⟨?_, ?_, ?_, ?_⟩
  · rw [settled, Reading.rest_settle]
  · intro error failed
    rcases Reading.result_eq_iff.mp failed with ⟨rest, whole⟩
    rw [settled, whole]
    rfl
  · intro expr finished nothing
    have used : (read permissive tokens).rest = [] := by
      rcases nothing with nothing | rfl
      · exact nothing
      · rfl
    rcases Reading.result_eq_iff.mp finished with ⟨rest, whole⟩
    rw [whole] at used
    have empty : rest = [] := used
    rw [settled, whole, empty]
    rfl
  · intro expr leftover rest nonempty finished
    refine ⟨?_, read_strict_of_consumed ignores alike nonempty finished⟩
    rw [settled, finished]
    rfl

/-- The second name is a leftover token, and the list before it is read alike by itself. -/
theorem read_strict_list_before_name :
    (read .strict [Token.name "a", .punct .lbracket, .punct .rbracket, Token.name "b"]).result =
        .error (.unexpectedToken (Token.name "b") (some .endOfInput)) ∧
      exists consumed, consumed ≠ [] ∧
        [Token.name "a", .punct .lbracket, .punct .rbracket, Token.name "b"] =
          consumed ++ [Token.name "b"] ∧
        read .strict consumed = ⟨.ok (.list (leaf (.name "a"))), []⟩ :=
  (read_strict_differs_only_on_leftovers .standard .strict rfl rfl _).2.2.2 _ _ _
    (List.cons_ne_nil _ _) rfl

end TypeExpr
end TreeShapes
