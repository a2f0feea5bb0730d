import TreeShapes.Proofs.NormalForms

namespace TreeShapes
namespace TypeExpr

/-!
# Choices are flat under every grouping

Expressions may be joined by bars, and parentheses put around any consecutive
ones of them, to any depth.  The result is the choice of all members of the
pieces, in order and with repetitions, or the only member if that is a list or
a tree.  It does not depend on the parentheses.

A grouping is spelled level by level.  Joining two levels by a bar appends
their members; a group contributes the members that are inside it, because the
expression that it stands for is never a choice around a single node.
-/

/-! ## Joining levels -/

theorem SpellsMembers.join {config : Config} {tokens moreTokens : List Token}
    {members more : List Alternative} (front : SpellsMembers config tokens members)
    (back : SpellsMembers config moreTokens more) :
    SpellsMembers config (tokens ++ .punct .bar :: moreTokens) (members ++ more) := by
  -- The level behind the bar loses its last atom, and its tokens become fewer with it.
  cases back with
  | single atom => exact front.bar atom
  | bar earlier last =>
      have level := (front.join earlier).bar last
      simpa only [List.append_assoc, List.cons_append] using level
termination_by moreTokens.length
decreasing_by simp

theorem SpellsMembers.parenthesize {config : Config} {tokens : List Token}
    {members : List Alternative} (inner : SpellsMembers config tokens members) :
    SpellsMembers config (.punct .lparen :: (tokens ++ [.punct .rparen])) members := by
  have level := SpellsMembers.single (.group inner)
  rw [members_ofMembers inner.areNormalMembers.1] at level
  exact level

theorem Spells.spellsMembers {config : Config} {tokens : List Token} {expr : TypeExpr}
    (spelled : Spells config tokens expr) : SpellsMembers config tokens expr.members := by
  rcases spelled with ⟨members, level, rfl⟩
  rw [members_ofMembers level.areNormalMembers.1]
  exact level

/-! ## Groupings -/

/-- A nonempty token list with the expression that it is read as. -/
structure Piece (config : Config) where
  tokens : List Token
  expr : TypeExpr
  nonempty : tokens ≠ []
  accepted : parse config tokens = .ok expr

/-- What a strict reading accepts is spelled, whatever the policy for leftover tokens. -/
theorem Piece.spells {config : Config} (piece : Piece (config.withTrailing .reject)) :
    Spells config piece.tokens piece.expr := by
  have strictly := (parse_eq_ok_iff_of_reject rfl piece.nonempty).mp piece.accepted
  exact spells_withTrailing_iff.mp strictly

/-- Pieces with bars between them, and with parentheses around any consecutive ones. -/
inductive Grouping (config : Config) where
  | piece (only : Piece config)
  | group (inner : Grouping config)
  | bar (first second : Grouping config)

namespace Grouping

variable {config : Config}

/-- The pieces from left to right, without the parentheses. -/
def pieces : Grouping config -> List (Piece config)
  | piece only => [only]
  | group inner => inner.pieces
  | bar first second => first.pieces ++ second.pieces

def tokens : Grouping config -> List Token
  | piece only => only.tokens
  | group inner => .punct .lparen :: (inner.tokens ++ [.punct .rparen])
  | bar first second => first.tokens ++ .punct .bar :: second.tokens

/-- What the pieces contribute to a choice, one after the other. -/
def members (grouping : Grouping config) : List Alternative :=
  grouping.pieces.flatMap fun piece => piece.expr.members

theorem spellsMembers (rejecting : config.trailing = .reject) (grouping : Grouping config) :
    SpellsMembers config grouping.tokens grouping.members := by
  induction grouping with
  | piece only =>
      have spelled := (parse_eq_ok_iff_of_reject rejecting only.nonempty).mp only.accepted
      simpa only [tokens, members, pieces, List.flatMap_singleton] using spelled.spellsMembers
  | group inner inductionHypothesis => exact inductionHypothesis.parenthesize
  | bar first second firstHypothesis secondHypothesis =>
      have level := firstHypothesis.join secondHypothesis
      simpa only [tokens, members, pieces, List.flatMap_append] using level

end Grouping

/-- Every grouping of accepted pieces is accepted, with the expression made of the members of all
pieces.  So parentheses do not count, and no member is lost, merged or moved. -/
theorem parse_grouping {config : Config} (rejecting : config.trailing = .reject)
    (grouping : Grouping config) :
    parse config grouping.tokens = .ok (ofMembers grouping.members) ∧
      (ofMembers grouping.members).members = grouping.members ∧
      (ofMembers grouping.members).members.length =
        grouping.pieces.foldr (fun piece count => piece.expr.members.length + count) 0 := by
  have level := grouping.spellsMembers rejecting
  have spelled : Spells config grouping.tokens (ofMembers grouping.members) := ⟨_, level, rfl⟩
  have kept := members_ofMembers level.areNormalMembers.1
  refine ⟨?_, kept, ?_⟩
  · rw [parse, spelled.read_eq]
  · rw [kept, Grouping.members, List.length_flatMap, List.sum_eq_foldr, List.foldr_map]

/-- A choice of two equal names, a list, and the choice again: the four names and the list are kept
in order, whatever the parentheses. -/
theorem parse_grouped_repetitions :
    parse .strict [.punct .lparen, .punct .lparen, Token.name "a", .punct .bar, Token.name "a",
        .punct .rparen, .punct .bar, .punct .lparen, Token.name "b", .punct .lbracket,
        .punct .rbracket, .punct .rparen, .punct .rparen, .punct .bar, Token.name "a", .punct .bar,
        Token.name "a"] =
      .ok (choice [.leaf (.name "a"), .leaf (.name "a"), .node (.list (leaf (.name "b"))),
        .leaf (.name "a"), .leaf (.name "a")]) :=
  let twice : Piece .strict :=
    ⟨[Token.name "a", .punct .bar, Token.name "a"],
      choice [.leaf (.name "a"), .leaf (.name "a")], List.cons_ne_nil _ _, rfl⟩
  let listed : Piece .strict :=
    ⟨[Token.name "b", .punct .lbracket, .punct .rbracket], .list (leaf (.name "b")),
      List.cons_ne_nil _ _, rfl⟩
  (parse_grouping rfl (.bar (.group (.bar (.group (.piece twice)) (.group (.piece listed))))
    (.piece twice))).1

end TypeExpr
end TreeShapes
