import TreeShapes.Config
import TreeShapes.Token
import TreeShapes.TypeExpr.Basic

namespace TreeShapes
namespace TypeExpr

/-!
# The grammar of type expressions

Which tokens spell which expression, stated as a relation that knows nothing of
states or of an order of reading.  A level of alternatives denotes the members
that its atoms contribute; `Spells` turns them into one expression.
-/

mutual

/-- The tokens spell an atom with the given value. -/
inductive SpellsAtom (config : Config) : List Token -> TypeExpr -> Prop
  | literal (literal : Literal) : SpellsAtom config [.literal literal] (leaf literal)
  | group {tokens : List Token} {members : List Alternative}
      (inner : SpellsMembers config tokens members) :
      SpellsAtom config (.punct .lparen :: (tokens ++ [.punct .rparen])) (ofMembers members)
  | tree {leftTokens rightTokens : List Token} {leftMembers rightMembers : List Alternative}
      (left : SpellsMembers config leftTokens leftMembers)
      (right : SpellsMembers config rightTokens rightMembers) :
      SpellsAtom config
        (.punct .langle :: (leftTokens ++ .punct .dot :: (rightTokens ++ [.punct .rangle])))
        (.tree (ofMembers leftMembers) (ofMembers rightMembers))
  | emptyList : SpellsAtom config [.punct .lbracket, .punct .rbracket] (leaf config.listTerminator)
  | closedList {tokens lastTokens : List Token} {elements : List TypeExpr}
      {lastMembers : List Alternative}
      (earlier : SpellsElements config tokens elements)
      (last : SpellsMembers config lastTokens lastMembers) :
      SpellsAtom config (.punct .lbracket :: (tokens ++ lastTokens ++ [.punct .rbracket]))
        (fixedList (elements ++ [ofMembers lastMembers]) (leaf config.listTerminator))
  | openList {tokens : List Token} {elements : List TypeExpr}
      (earlier : SpellsElements config tokens elements) :
      SpellsAtom config (.punct .lbracket :: (tokens ++ [.punct .ellipsis, .punct .rbracket]))
        (fixedList elements (leaf config.openTail))
  | listOf {tokens : List Token} {element : TypeExpr}
      (atom : SpellsAtom config tokens element) :
      SpellsAtom config (tokens ++ [.punct .lbracket, .punct .rbracket]) (.list element)

/-- The tokens spell atoms with bars between them that contribute the given members. -/
inductive SpellsMembers (config : Config) : List Token -> List Alternative -> Prop
  | single {tokens : List Token} {value : TypeExpr}
      (atom : SpellsAtom config tokens value) :
      SpellsMembers config tokens value.members
  | bar {tokens lastTokens : List Token} {members : List Alternative} {value : TypeExpr}
      (earlier : SpellsMembers config tokens members)
      (last : SpellsAtom config lastTokens value) :
      SpellsMembers config (tokens ++ .punct .bar :: lastTokens) (members ++ value.members)

/-- The tokens spell elements of a fixed list, each followed by a comma. -/
inductive SpellsElements (config : Config) : List Token -> List TypeExpr -> Prop
  | none : SpellsElements config [] []
  | comma {tokens lastTokens : List Token} {elements : List TypeExpr}
      {lastMembers : List Alternative}
      (earlier : SpellsElements config tokens elements)
      (last : SpellsMembers config lastTokens lastMembers) :
      SpellsElements config (tokens ++ lastTokens ++ [.punct .comma])
        (elements ++ [ofMembers lastMembers])

end

def Spells (config : Config) (tokens : List Token) (expr : TypeExpr) : Prop :=
  exists members, SpellsMembers config tokens members ∧ expr = ofMembers members

end TypeExpr
end TreeShapes
