import TreeShapes.Proofs.Groupings

namespace TreeShapes
namespace TypeExpr

/-!
# A list suffix binds to the atom before it

A pair of brackets behind an atom makes another atom, a list of the first.
Suffixes therefore pile up as layers around one atom and never reach past a bar
to the alternatives before it.  A group counts as one atom, whatever is inside
it, so the layers stand around the whole of its expression.

An atom with at least one layer is a list, and a list is a single member of the
choice that it joins, even if the expression inside the layers is a choice.
-/

/-- As many list suffixes as there are layers. -/
def suffixes (layers : Nat) : List Token :=
  (List.replicate layers [Token.punct .lbracket, .punct .rbracket]).flatten

theorem suffixes_succ (layers : Nat) :
    suffixes (layers + 1) = suffixes layers ++ [.punct .lbracket, .punct .rbracket] := by
  rw [suffixes, List.replicate_succ', List.flatten_concat, suffixes]

/-! ## Layers -/

theorem nested_succ (layers : Nat) (expr : TypeExpr) :
    nested (layers + 1) expr = .list (nested layers expr) := rfl

theorem listDepth_nested (layers : Nat) (expr : TypeExpr) :
    (nested layers expr).listDepth = expr.listDepth + layers := by
  induction layers with
  | zero => rfl
  | succ layers inductionHypothesis =>
      rw [nested_succ, listDepth, inductionHypothesis, Nat.add_assoc]

/-- With a layer around it, an expression joins a choice as one node. -/
theorem members_nested {layers : Nat} (layered : 1 ≤ layers) (expr : TypeExpr) :
    (nested layers expr).members = [.node (nested layers expr)] := by
  cases layers with
  | zero => cases layered
  | succ layers => rfl

/-- Every suffix behind an atom puts one more layer around its value. -/
theorem SpellsAtom.nested {config : Config} {tokens : List Token} {value : TypeExpr}
    (atom : SpellsAtom config tokens value) (layers : Nat) :
    SpellsAtom config (tokens ++ suffixes layers) (TypeExpr.nested layers value) := by
  induction layers with
  | zero =>
      rw [suffixes, List.replicate_zero, List.flatten_nil, List.append_nil]
      exact atom
  | succ layers inductionHypothesis =>
      rw [suffixes_succ, ← List.append_assoc, nested_succ]
      exact inductionHypothesis.listOf

/-! ## What a suffix binds to -/

theorem Spells.group {config : Config} {tokens : List Token} {expr : TypeExpr}
    (spelled : Spells config tokens expr) :
    SpellsAtom config (.punct .lparen :: (tokens ++ [.punct .rparen])) expr := by
  rcases spelled with ⟨members, level, rfl⟩
  exact .group level

/-- A literal, or an accepted piece in parentheses. -/
inductive Operand (config : Config) where
  | literal (single : Literal)
  | group (inner : Piece config)

namespace Operand

variable {config : Config}

def tokens : Operand config -> List Token
  | literal single => [.literal single]
  | group inner => .punct .lparen :: (inner.tokens ++ [.punct .rparen])

def value : Operand config -> TypeExpr
  | literal single => leaf single
  | group inner => inner.expr

theorem spellsAtom (operand : Operand (config.withTrailing .reject)) :
    SpellsAtom config operand.tokens operand.value := by
  cases operand with
  | literal single => exact .literal single
  | group inner => exact inner.spells.group

end Operand

/-- Members with a node behind them need a choice around them. -/
theorem ofMembers_concat {members : List Alternative} (nonempty : members ≠ [])
    (last : Alternative) : ofMembers (members ++ [last]) = .choice (members ++ [last]) := by
  rw [ofMembers]
  intro expr single
  have lengths := congrArg List.length single
  rw [List.length_append] at lengths
  have positive := List.length_pos_iff.mpr nonempty
  simp only [List.length_singleton] at lengths
  omega

/-- Suffixes behind a group are layers around the expression of the group.  Suffixes behind the last
alternative are layers around that alternative alone, and the alternatives before it stay as they
are. -/
theorem read_suffixes_eq_nested (config : Config) (piece : Piece (config.withTrailing .reject))
    (operand : Operand (config.withTrailing .reject)) {layers : Nat} (layered : 1 ≤ layers) :
    read config (.punct .lparen :: (piece.tokens ++ .punct .rparen :: suffixes layers)) =
      ⟨.ok (nested layers piece.expr), []⟩ ∧
    (nested layers piece.expr).listDepth = piece.expr.listDepth + layers ∧
    read config (piece.tokens ++ .punct .bar :: (operand.tokens ++ suffixes layers)) =
      ⟨.ok (.choice (piece.expr.members ++ [.node (nested layers operand.value)])), []⟩ := by
  refine ⟨?_, listDepth_nested layers piece.expr, ?_⟩
  · have atom := piece.spells.group.nested layers
    rw [List.cons_append, List.append_assoc, List.singleton_append] at atom
    exact atom.spells.read_eq
  · have level := piece.spells.spellsMembers.bar (operand.spellsAtom.nested layers)
    have alternatives := areNormalMembers_members piece.spells.isNormal
    rw [members_nested layered] at level
    apply Spells.read_eq
    exact ⟨_, level, (ofMembers_concat alternatives.2 _).symm⟩

/-- Two suffixes behind a group in a choice: the choice inside the group stays inside both layers,
and the list before the bar keeps its own. -/
theorem read_suffixes_behind_group :
    read .standard [.punct .lparen, Token.name "a", .punct .lbracket, .punct .rbracket,
        .punct .rparen, .punct .lbracket, .punct .rbracket, .punct .lbracket, .punct .rbracket] =
      ⟨.ok (.list (.list (.list (leaf (.name "a"))))), []⟩ ∧
    (list (.list (.list (leaf (.name "a"))))).listDepth = 1 + 2 ∧
    read .standard [Token.name "a", .punct .lbracket, .punct .rbracket, .punct .bar, .punct .lparen,
        Token.name "b", .punct .bar, Token.name "c", .punct .rparen, .punct .lbracket,
        .punct .rbracket, .punct .lbracket, .punct .rbracket] =
      ⟨.ok (.choice [.node (.list (leaf (.name "a"))),
        .node (.list (.list (choice [.leaf (.name "b"), .leaf (.name "c")])))]), []⟩ :=
  let listed : Piece .strict :=
    ⟨[Token.name "a", .punct .lbracket, .punct .rbracket], .list (leaf (.name "a")),
      List.cons_ne_nil _ _, rfl⟩
  let choiceOfTwo : Piece .strict :=
    ⟨[Token.name "b", .punct .bar, Token.name "c"],
      choice [.leaf (.name "b"), .leaf (.name "c")], List.cons_ne_nil _ _, rfl⟩
  read_suffixes_eq_nested .standard listed (.group choiceOfTwo) (Nat.le_succ 1)

end TypeExpr
end TreeShapes
