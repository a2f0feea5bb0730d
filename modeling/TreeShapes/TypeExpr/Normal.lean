import TreeShapes.Token
import TreeShapes.TypeExpr.Basic

namespace TreeShapes
namespace TypeExpr

/-!
# Normal expressions and their spelling

An expression is normal if, at every depth, no choice is empty, no choice is a
member of a choice, and a choice of one member holds a literal.  Every normal
expression has a spelling of its own.
-/

def isChoice : TypeExpr -> Bool
  | choice _ => true
  | list _ => false
  | tree _ _ => false

mutual

def isNormal : TypeExpr -> Bool
  | choice [] => false
  | choice [.node _] => false
  | choice (member :: members) => isNormalMember member && areNormalMembers members
  | list element => element.isNormal
  | tree left right => left.isNormal && right.isNormal

/-- Whether an alternative may be a member of a normal choice. -/
def isNormalMember : Alternative -> Bool
  | .leaf _ => true
  | .node expr => !expr.isChoice && expr.isNormal

def areNormalMembers : List Alternative -> Bool
  | [] => true
  | member :: members => isNormalMember member && areNormalMembers members

end

mutual

/-- A spelling of an expression: the members of a choice with bars between them, a list as a
group with a suffix, a tree between angle brackets. -/
def spell : TypeExpr -> List Token
  | choice [] => []
  | choice (member :: members) => spellMember member ++ spellMembers members
  | list element =>
      .punct .lparen ::
        (element.spell ++ [.punct .rparen, .punct .lbracket, .punct .rbracket])
  | tree left right =>
      .punct .langle :: (left.spell ++ .punct .dot :: (right.spell ++ [.punct .rangle]))

def spellMember : Alternative -> List Token
  | .leaf literal => [.literal literal]
  | .node expr => expr.spell

/-- The members after the first, each behind a bar. -/
def spellMembers : List Alternative -> List Token
  | [] => []
  | member :: members => .punct .bar :: (spellMember member ++ spellMembers members)

end

end TypeExpr
end TreeShapes
