import TreeShapes.BinaryTree.Basic
import TreeShapes.Token

namespace TreeShapes

/-!
# The grammar of tree literals

Which literals denote a tree, and which tokens spell which tree, stated as
relations.
-/

/-- The literal denotes the tree.  A number denotes the list of that many empty trees, within the
limit, and a program atom denotes what its number does. -/
inductive Literal.Denotes : Literal -> BinaryTree -> Prop
  | nil : Literal.Denotes (.name Literal.nilSpelling) .nil
  | falsity : Literal.Denotes (.name Literal.falseSpelling) .nil
  | truth : Literal.Denotes (.name Literal.trueSpelling) (.node .nil .nil)
  | number {value : UInt64} (limited : value <= BinaryTree.maxNumber) :
      Literal.Denotes (.int value) (BinaryTree.ofList (List.replicate value.toNat .nil))
  | programAtom {spelling : String} {value : UInt64}
      (listed : ⟨spelling, value⟩ ∈ ProgramAtom.all) :
      Literal.Denotes (.name spelling) (BinaryTree.ofList (List.replicate value.toNat .nil))

namespace BinaryTree

mutual

inductive Spells : List Token -> BinaryTree -> Prop
  | literal {literal : Literal} {tree : BinaryTree} (value : literal.Denotes tree) :
      Spells [.literal literal] tree
  | node {leftTokens rightTokens : List Token} {left right : BinaryTree}
      (leftSpelled : Spells leftTokens left) (rightSpelled : Spells rightTokens right) :
      Spells (.punct .langle :: (leftTokens ++ .punct .dot :: (rightTokens ++ [.punct .rangle])))
        (.node left right)
  | emptyList : Spells [.punct .lbracket, .punct .rbracket] .nil
  | list {tokens : List Token} {items : List BinaryTree} (spelled : SpellsItems tokens items) :
      Spells (.punct .lbracket :: (tokens ++ [.punct .rbracket])) (ofList items)

/-- The tokens spell one or more trees with commas between them. -/
inductive SpellsItems : List Token -> List BinaryTree -> Prop
  | single {tokens : List Token} {tree : BinaryTree} (spelled : Spells tokens tree) :
      SpellsItems tokens [tree]
  | comma {tokens lastTokens : List Token} {items : List BinaryTree} {last : BinaryTree}
      (earlier : SpellsItems tokens items) (spelled : Spells lastTokens last) :
      SpellsItems (tokens ++ .punct .comma :: lastTokens) (items ++ [last])

end

end BinaryTree
end TreeShapes
