import TreeShapes.Proofs.Groupings

namespace TreeShapes
namespace TypeExpr

/-!
# Fixed lists are written-out trees

A fixed list stands for right-nested trees whose last right child is a
configured literal.  The list is spelled by a loop over its elements and the
trees by a recursion into right children, but both are atoms with the same
value.  An atom is left with nothing but its value, so the two spellings cannot
be told apart by what follows them, be it a suffix, another alternative or
tokens that make no sense there.

The elements of a list are spelled from the left, each with the comma behind
it, and the last one stands before the right bracket.  The trees are spelled
from the innermost literal outwards.
-/

/-- A fixed list of the given elements, with commas between them. -/
def bracketed (elements : List (List Token)) : List Token :=
  .punct .lbracket :: ([Token.punct .comma].intercalate elements ++ [.punct .rbracket])

/-- Right-nested trees of the given elements that end in a literal. -/
def writtenOut (elements : List (List Token)) (tail : Literal) : List Token :=
  elements.foldr
    (fun element rest =>
      .punct .langle :: (element ++ .punct .dot :: (rest ++ [.punct .rangle])))
    [.literal tail]

/-! ## The trees -/

theorem Spells.tree {config : Config} {leftTokens rightTokens : List Token}
    {left right : TypeExpr} (leftSpelled : Spells config leftTokens left)
    (rightSpelled : Spells config rightTokens right) :
    SpellsAtom config
      (.punct .langle :: (leftTokens ++ .punct .dot :: (rightTokens ++ [.punct .rangle])))
      (.tree left right) := by
  rcases leftSpelled with ⟨leftMembers, leftLevel, rfl⟩
  rcases rightSpelled with ⟨rightMembers, rightLevel, rfl⟩
  exact .tree leftLevel rightLevel

section Pieces

variable {config : Config}

theorem spellsAtom_writtenOut (pieces : List (Piece (config.withTrailing .reject)))
    (tail : Literal) :
    SpellsAtom config (writtenOut (pieces.map Piece.tokens) tail)
      (fixedList (pieces.map Piece.expr) (leaf tail)) := by
  induction pieces with
  | nil => exact .literal tail
  | cons piece pieces inductionHypothesis =>
      exact piece.spells.tree inductionHypothesis.spells

/-! ## The list -/

/-- Elements in front of a last one each have a comma behind them. -/
theorem intercalate_comma_concat (elements : List (List Token)) (last : List Token) :
    [Token.punct .comma].intercalate (elements ++ [last]) =
      elements.flatMap (fun element => element ++ [.punct .comma]) ++ last := by
  induction elements with
  | nil => simp
  | cons element elements inductionHypothesis =>
      have behind : elements ++ [last] ≠ [] := List.append_ne_nil_of_right_ne_nil _ (by simp)
      rw [List.cons_append, List.intercalate_cons_of_ne_nil behind, inductionHypothesis,
        List.flatMap_cons, List.append_assoc (element ++ _)]

/-- Pieces with their commas continue the elements of a list. -/
theorem SpellsElements.append_pieces {tokens : List Token} {elements : List TypeExpr}
    (earlier : SpellsElements config tokens elements)
    (pieces : List (Piece (config.withTrailing .reject))) :
    SpellsElements config
      (tokens ++ (pieces.map Piece.tokens).flatMap (fun element => element ++ [.punct .comma]))
      (elements ++ pieces.map Piece.expr) := by
  -- Elements grow at their right end, hence the pieces are taken over one by one from the left.
  induction pieces generalizing tokens elements with
  | nil => simpa only [List.map_nil, List.flatMap_nil, List.append_nil] using earlier
  | cons piece pieces inductionHypothesis =>
      rcases piece.spells with ⟨members, level, same⟩
      have longer := inductionHypothesis (earlier.comma level)
      rw [← same] at longer
      simpa only [List.map_cons, List.flatMap_cons, List.append_assoc, List.cons_append,
        List.nil_append] using longer

theorem spellsAtom_bracketed (pieces : List (Piece (config.withTrailing .reject))) :
    SpellsAtom config (bracketed (pieces.map Piece.tokens))
      (fixedList (pieces.map Piece.expr) (leaf config.listTerminator)) := by
  rcases pieces.eq_nil_or_concat with empty | ⟨front, last, split⟩
  · subst pieces
    exact .emptyList
  · subst pieces
    rcases last.spells with ⟨members, level, same⟩
    have atom := SpellsAtom.closedList (SpellsElements.none.append_pieces front) level
    rw [← same] at atom
    simpa only [bracketed, List.concat_eq_append, List.map_append, List.map_cons, List.map_nil,
      intercalate_comma_concat, List.nil_append] using atom

theorem spellsAtom_bracketed_ellipsis (pieces : List (Piece (config.withTrailing .reject))) :
    SpellsAtom config (bracketed (pieces.map Piece.tokens ++ [[.punct .ellipsis]]))
      (fixedList (pieces.map Piece.expr) (leaf config.openTail)) := by
  have atom := SpellsAtom.openList (SpellsElements.none.append_pieces pieces)
  simpa only [bracketed, intercalate_comma_concat, List.append_assoc, List.cons_append,
    List.nil_append] using atom

end Pieces

/-! ## Both in front of the same tokens -/

/-- An atom at the front is known to the rest of the reading by its value alone. -/
theorem SpellsAtom.read_append {config : Config} {tokens : List Token} {value : TypeExpr}
    (atom : SpellsAtom config tokens value) (rest : List Token) :
    read config (tokens ++ rest) =
      ((reader config).run ⟨.after value, [], []⟩ rest).settle config.trailing := by
  have nonempty := List.append_ne_nil_of_left_ne_nil atom.spells.ne_nil rest
  have behind : (reader config).advance? (reader config).start tokens =
      some ⟨.after value, [], []⟩ := atom.advance?_eq [] []
  rw [read_of_ne_nil config nonempty, readLongest, Reader.read, Reader.run_append _ behind]

/-- A fixed list is read as the trees that it stands for, to the same result and with the same
tokens left.  The trees of a list without an ellipsis end in the list terminator, those of a list
with one in the open tail. -/
theorem read_bracketed_eq_writtenOut (config : Config)
    (pieces : List (Piece (config.withTrailing .reject))) (rest : List Token) :
    read config (bracketed (pieces.map Piece.tokens) ++ rest) =
      read config (writtenOut (pieces.map Piece.tokens) config.listTerminator ++ rest) ∧
    read config (bracketed (pieces.map Piece.tokens ++ [[.punct .ellipsis]]) ++ rest) =
      read config (writtenOut (pieces.map Piece.tokens) config.openTail ++ rest) := by
  constructor
  · have trees := spellsAtom_writtenOut pieces config.listTerminator
    rw [(spellsAtom_bracketed pieces).read_append, trees.read_append]
  · have trees := spellsAtom_writtenOut pieces config.openTail
    rw [(spellsAtom_bracketed_ellipsis pieces).read_append, trees.read_append]

/-- A choice and a list as elements, with and without an ellipsis, in front of a suffix that is not
closed. -/
theorem read_two_elements_eq_writtenOut :
    read .standard [.punct .lbracket, Token.name "a", .punct .bar, Token.name "b", .punct .comma,
        Token.name "c", .punct .lbracket, .punct .rbracket, .punct .rbracket, .punct .lbracket] =
      read .standard [.punct .langle, Token.name "a", .punct .bar, Token.name "b", .punct .dot,
        .punct .langle, Token.name "c", .punct .lbracket, .punct .rbracket, .punct .dot,
        Token.name "nil", .punct .rangle, .punct .rangle, .punct .lbracket] ∧
    read .standard [.punct .lbracket, Token.name "a", .punct .bar, Token.name "b", .punct .comma,
        Token.name "c", .punct .lbracket, .punct .rbracket, .punct .comma, .punct .ellipsis,
        .punct .rbracket, .punct .lbracket] =
      read .standard [.punct .langle, Token.name "a", .punct .bar, Token.name "b", .punct .dot,
        .punct .langle, Token.name "c", .punct .lbracket, .punct .rbracket, .punct .dot,
        Token.name "any", .punct .rangle, .punct .rangle, .punct .lbracket] :=
  let choiceOfTwo : Piece .strict :=
    ⟨[Token.name "a", .punct .bar, Token.name "b"],
      choice [.leaf (.name "a"), .leaf (.name "b")], List.cons_ne_nil _ _, rfl⟩
  let listed : Piece .strict :=
    ⟨[Token.name "c", .punct .lbracket, .punct .rbracket], .list (leaf (.name "c")),
      List.cons_ne_nil _ _, rfl⟩
  read_bracketed_eq_writtenOut .standard [choiceOfTwo, listed] [.punct .lbracket]

end TypeExpr
end TreeShapes
