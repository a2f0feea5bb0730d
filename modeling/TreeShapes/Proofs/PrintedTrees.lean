import TreeShapes.BinaryTree.Printing
import TreeShapes.Proofs.TreeGrammar

namespace TreeShapes
namespace BinaryTree

/-!
# Printed trees are read back

A tree is printed piece by piece, with a list of pending pieces in place of
recursion.  Joined, the pieces are the text that a recursion over the tree would
give.  Classified one by one, they are again the tokens of the tree, which is
read from them without loss.  The text alone determines the tree as well: a
printed tree ends where its own brackets close, so that no printed tree is a
proper beginning of another.
-/

/-- The texts that printing puts down, one after the other. -/
def pieces (tree : BinaryTree) : List String :=
  tree.toTokens.toList.map Token.text

/-- The text of a tree, by recursion on the tree. -/
def display : BinaryTree -> String
  | nil => "nil"
  | node left right => "<" ++ left.display ++ "." ++ right.display ++ ">"

theorem text_eq_join_pieces (tree : BinaryTree) : tree.text = String.join tree.pieces := by
  rw [text, pieces, String.join, ← Array.foldl_toList, List.foldl_map]

theorem pieces_nil : pieces nil = ["nil"] := by
  rw [pieces, toTokens_eq]
  rfl

theorem pieces_node (left right : BinaryTree) :
    pieces (node left right) = "<" :: (left.pieces ++ "." :: (right.pieces ++ [">"])) := by
  simp only [pieces, toTokens_eq, spell, List.map_cons, List.map_append, List.map_nil]
  rfl

/-- The printed text is the text that the recursion gives. -/
theorem text_eq_display (tree : BinaryTree) : tree.text = tree.display := by
  rw [text_eq_join_pieces]
  induction tree with
  | nil =>
      rw [pieces_nil]
      rfl
  | node left right leftHypothesis rightHypothesis =>
      rw [pieces_node, display]
      simp only [String.join_cons, String.join_append, String.join_nil, leftHypothesis,
        rightHypothesis, String.append_assoc, String.append_empty]

/-! ## Reading the pieces -/

theorem classify_pieces (tree : BinaryTree) : tree.pieces.map Token.classify = tree.spell := by
  induction tree with
  | nil =>
      rw [pieces_nil]
      rfl
  | node left right leftHypothesis rightHypothesis =>
      rw [pieces_node, spell, ← leftHypothesis, ← rightHypothesis]
      simp only [List.map_cons, List.map_append, List.map_nil]
      rfl

theorem spells_spell (tree : BinaryTree) : Spells tree.spell tree := by
  induction tree with
  | nil => exact .literal .nil
  | node left right leftHypothesis rightHypothesis => exact .node leftHypothesis rightHypothesis

theorem parse_classify_pieces (tree : BinaryTree) :
    parse (tree.pieces.map Token.classify) = .ok tree := by
  rw [classify_pieces]
  have spelled := spells_spell tree
  exact (parse_eq_ok_iff_of_ne_nil spelled.ne_nil).mpr spelled

/-! ## The text determines the tree -/

theorem toList_display_nil : (display nil).toList = ['n', 'i', 'l'] := by
  rfl

theorem toList_display_node (left right : BinaryTree) :
    (display (node left right)).toList =
      '<' :: (left.display.toList ++ '.' :: (right.display.toList ++ ['>'])) := by
  simp [display]

/-- A printed tree determines itself and where it ends in a longer text. -/
theorem display_append_injective (tree : BinaryTree) :
    forall (other : BinaryTree) (rest more : List Char),
      tree.display.toList ++ rest = other.display.toList ++ more -> tree = other ∧ rest = more := by
  induction tree with
  | nil =>
      intro other rest more same
      cases other with
      | nil => exact ⟨rfl, List.append_cancel_left same⟩
      | node otherLeft otherRight =>
          rw [toList_display_nil, toList_display_node] at same
          cases same
  | node left right leftHypothesis rightHypothesis =>
      intro other rest more same
      cases other with
      | nil =>
          rw [toList_display_nil, toList_display_node] at same
          cases same
      | node otherLeft otherRight =>
          simp only [toList_display_node, List.cons_append, List.append_assoc, List.nil_append,
            List.cons.injEq, true_and] at same
          have lefts := leftHypothesis otherLeft _ _ same
          have behindDots := List.cons.inj lefts.2
          have rights := rightHypothesis otherRight _ _ behindDots.2
          have behindBrackets := List.cons.inj rights.2
          exact ⟨by rw [lefts.1, rights.1], behindBrackets.2⟩

theorem text_injective {tree other : BinaryTree} (same : tree.text = other.text) :
    tree = other := by
  rw [text_eq_display, text_eq_display] at same
  have letters := congrArg String.toList same
  have determined := display_append_injective tree other [] []
  rw [List.append_nil, List.append_nil] at determined
  exact (determined letters).1

/-- Printing and reading are inverse.  The text is what its pieces and the recursion over the tree
say, the classified pieces are read as the tree, the text determines the tree, and whatever tokens
a tree was read from, its printed pieces are read the same. -/
theorem parse_print_inverse (tree : BinaryTree) :
    tree.text = String.join tree.pieces ∧ tree.text = tree.display ∧
    parse (tree.pieces.map Token.classify) = .ok tree ∧
    (forall other : BinaryTree, tree.text = other.text -> tree = other) ∧
    (forall tokens, parse tokens = .ok tree ->
      parse (tree.pieces.map Token.classify) = parse tokens) := by
  have readBack := parse_classify_pieces tree
  refine ⟨text_eq_join_pieces tree, text_eq_display tree, readBack, ?_, ?_⟩
  · intro other same
    exact text_injective same
  · intro tokens finished
    rw [readBack, finished]

/-- The number two is printed as nodes, and the nodes are read as the number is. -/
theorem parse_print_number_two :
    parse ((node nil (node nil nil)).pieces.map Token.classify) = parse [Token.int 2] ∧
    node nil (node nil nil) = ofNumber 2 :=
  ⟨(parse_print_inverse _).2.2.2.2 _ rfl, (parse_print_inverse _).2.2.2.1 _ rfl⟩

end BinaryTree
end TreeShapes
