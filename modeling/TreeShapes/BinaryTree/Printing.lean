import TreeShapes.BinaryTree.Basic
import TreeShapes.Token

namespace TreeShapes
namespace BinaryTree

/-!
# Writing trees

A tree is written as `nil` or `<left.right>`.  `spell` says so by recursion;
`toTokens` does it with an explicit list of pending pieces, so that the depth
of a tree costs no stack, and `toTokens_eq` shows that both write the same.
-/

/-- The tokens of a tree, by recursion on the tree. -/
def spell : BinaryTree -> List Token
  | nil => [Token.name Literal.nilSpelling]
  | node left right =>
      .punct .langle :: (left.spell ++ .punct .dot :: (right.spell ++ [.punct .rangle]))

/-- What is still to be written. -/
inductive Piece where
  | tree (subtree : BinaryTree)
  | token (single : Token)

def Piece.spell : Piece -> List Token
  | tree subtree => subtree.spell
  | token single => [single]

/-- The steps that writing the pending pieces takes. -/
def pendingPieces : List Piece -> Nat
  | [] => 0
  | .tree subtree :: rest => 4 * subtree.nodeCount + 1 + pendingPieces rest
  | .token _ :: rest => 1 + pendingPieces rest

/-- Write the pending pieces behind what is already written. -/
def write : List Piece -> Array Token -> Array Token
  | [], written => written
  | .token token :: rest, written => write rest (written.push token)
  | .tree nil :: rest, written => write rest (written.push (Token.name Literal.nilSpelling))
  | .tree (node left right) :: rest, written =>
      write (.tree left :: .token (.punct .dot) :: .tree right :: .token (.punct .rangle) :: rest)
        (written.push (.punct .langle))
termination_by pending => pendingPieces pending
decreasing_by
  all_goals
    simp only [pendingPieces, nodeCount]
    omega

theorem toList_write (pending : List Piece) (written : Array Token) :
    (write pending written).toList = written.toList ++ pending.flatMap Piece.spell := by
  fun_induction write pending written with
  | case1 => simp
  | case2 token rest written ih => simp [ih, Piece.spell]
  | case3 rest written ih => simp [ih, Piece.spell, spell]
  | case4 left right rest written ih => simp [ih, Piece.spell, spell]

def toTokens (tree : BinaryTree) : Array Token :=
  write [.tree tree] #[]

/-- Writing with pending pieces writes what the recursion says. -/
theorem toTokens_eq (tree : BinaryTree) : tree.toTokens.toList = tree.spell := by
  simp [toTokens, toList_write, Piece.spell]

def text (tree : BinaryTree) : String :=
  tree.toTokens.foldl (fun written token => written ++ token.text) ""

end BinaryTree
end TreeShapes
