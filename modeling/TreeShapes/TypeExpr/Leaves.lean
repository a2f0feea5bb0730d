import TreeShapes.BinaryTree.Basic
import TreeShapes.Config
import TreeShapes.Token
import TreeShapes.TypeExpr.Basic

namespace TreeShapes
namespace TypeExpr

/-!
# Leaves of type expressions

The literals of an expression from left to right, the literals that a token
list accounts for, the renaming of literals, and the value of an expression
that describes a single tree.
-/

mutual

def leaves : TypeExpr -> List Literal
  | choice members => leavesOfMembers members
  | list element => element.leaves
  | tree left right => left.leaves ++ right.leaves

def leavesOfMember : Alternative -> List Literal
  | .leaf literal => [literal]
  | .node expr => expr.leaves

def leavesOfMembers : List Alternative -> List Literal
  | [] => []
  | member :: members => leavesOfMember member ++ leavesOfMembers members

end

/-- Whether an atom can end with the token: with a literal or a closing mark. -/
def endsAtom : Token -> Bool
  | .literal _ => true
  | .punct mark => mark.isClosing

/-- The literals that a token accounts for, given the two tokens before it.  A right bracket ends a
fixed list, unless it follows an ellipsis or closes a list suffix. -/
def accountsFor (config : Config) (earlier last : Option Token) : Token -> List Literal
  | .literal literal => [literal]
  | .punct .ellipsis => [config.openTail]
  | .punct .rbracket =>
      if last = some (.punct .ellipsis) then []
      else if last = some (.punct .lbracket) ∧ earlier.any endsAtom then []
      else [config.listTerminator]
  | .punct _ => []

/-- The literals that a token list accounts for, scanned with two tokens of memory. -/
def scanLeaves (config : Config) :
    (earlier last : Option Token) -> List Token -> List Literal
  | _, _, [] => []
  | earlier, last, token :: rest =>
      accountsFor config earlier last token ++ scanLeaves config last (some token) rest

mutual

def rename (naming : Literal -> Literal) : TypeExpr -> TypeExpr
  | choice members => .choice (renameMembers naming members)
  | list element => .list (element.rename naming)
  | tree left right => .tree (left.rename naming) (right.rename naming)

def renameMember (naming : Literal -> Literal) : Alternative -> Alternative
  | .leaf literal => .leaf (naming literal)
  | .node expr => .node (expr.rename naming)

def renameMembers (naming : Literal -> Literal) : List Alternative -> List Alternative
  | [] => []
  | member :: members => renameMember naming member :: renameMembers naming members

end

/-- The tree that an expression describes, if it is built from single literals and trees. -/
def value? : TypeExpr -> Option BinaryTree
  | choice [.leaf literal] => literal.tree?
  | choice _ => none
  | list _ => none
  | tree left right =>
      left.value?.bind fun leftValue => right.value?.map fun rightValue =>
        .node leftValue rightValue

end TypeExpr
end TreeShapes
