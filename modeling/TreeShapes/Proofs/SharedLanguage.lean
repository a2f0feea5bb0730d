import TreeShapes.Proofs.NormalForms
import TreeShapes.Proofs.TreeGrammar
import TreeShapes.TypeExpr.Leaves

namespace TreeShapes

/-!
# Where the two languages meet

A tree literal is also a type expression: the one that describes this tree
alone.  Conversely a type expression is a tree literal if it is written in the
vocabulary of trees, without bars, groups and ellipses and with literals that
have a value, and if no suffix turned a part of it into a list.  Its value as
an expression is then the tree that it spells.

Both directions compare the two grammars, derivation by derivation.  A left
bracket after an atom is where they differ: it is a suffix for one reader and
an error for the other, and list-freeness is what excludes it.  Nothing is used
of the configuration but the value of its list terminator.
-/

/-- The vocabulary of trees lacks the marks that only type expressions use and the literals without
a value.  It need not lack the colon, which neither reader takes. -/
def Token.inTreeVocabulary : Token -> Bool
  | .literal value => value.tree?.isSome
  | .punct .bar | .punct .ellipsis | .punct .lparen | .punct .rparen => false
  | .punct _ => true

namespace TypeExpr

mutual

def isListFree : TypeExpr -> Bool
  | choice members => areListFree members
  | list _ => false
  | tree left right => left.isListFree && right.isListFree

def isListFreeMember : Alternative -> Bool
  | .leaf _ => true
  | .node expr => expr.isListFree

def areListFree : List Alternative -> Bool
  | [] => true
  | member :: members => isListFreeMember member && areListFree members

end

/-! ## Values and lists -/

theorem value?_tree_eq_some_iff {left right : TypeExpr} {tree : BinaryTree} :
    (TypeExpr.tree left right).value? = some tree <->
      exists leftTree rightTree, left.value? = some leftTree ∧ right.value? = some rightTree ∧
        tree = .node leftTree rightTree := by
  simp only [value?, Option.bind_eq_some_iff, Option.map_eq_some_iff]
  constructor
  · rintro ⟨leftTree, leftValue, rightTree, rightValue, rfl⟩
    exact ⟨leftTree, rightTree, leftValue, rightValue, rfl⟩
  · rintro ⟨leftTree, rightTree, leftValue, rightValue, rfl⟩
    exact ⟨leftTree, leftValue, rightTree, rightValue, rfl⟩

theorem isListFree_of_value? {expr : TypeExpr} {tree : BinaryTree}
    (valued : expr.value? = some tree) : expr.isListFree = true := by
  fun_induction value? expr generalizing tree with
  | case1 literal => rfl
  | case2 members several => cases valued
  | case3 element => cases valued
  | case4 left right leftHypothesis rightHypothesis =>
      rcases value?_tree_eq_some_iff.mp valued with ⟨leftTree, rightTree, leftValue, rightValue, _⟩
      rw [isListFree, Bool.and_eq_true]
      exact ⟨leftHypothesis leftValue, rightHypothesis rightValue⟩

theorem map_value?_concat {elements : List TypeExpr} {items : List BinaryTree} {last : TypeExpr}
    {tree : BinaryTree} (valued : elements.map value? = items.map some)
    (lastValued : last.value? = some tree) :
    (elements ++ [last]).map value? = (items ++ [tree]).map some := by
  rw [List.map_append, List.map_append, valued, List.map_singleton, List.map_singleton, lastValued]

theorem value?_fixedList {elements : List TypeExpr} {items : List BinaryTree} {tail : TypeExpr}
    (valued : elements.map value? = items.map some) (ended : tail.value? = some .nil) :
    (fixedList elements tail).value? = some (BinaryTree.ofList items) := by
  induction elements generalizing items with
  | nil =>
      have none : items = [] := List.map_eq_nil_iff.mp valued.symm
      subst items
      exact ended
  | cons element elements inductionHypothesis =>
      cases items with
      | nil => cases valued
      | cons item items =>
          have parts := List.cons.inj valued
          apply value?_tree_eq_some_iff.mpr
          exact ⟨item, BinaryTree.ofList items, parts.1, inductionHypothesis parts.2, rfl⟩

theorem isListFree_fixedList {elements : List TypeExpr} {tail : TypeExpr} :
    (fixedList elements tail).isListFree = true <->
      (forall element, element ∈ elements -> element.isListFree = true) ∧
        tail.isListFree = true := by
  induction elements with
  | nil => simp [fixedList]
  | cons element elements inductionHypothesis =>
      change (element.tree (fixedList elements tail)).isListFree = true <-> _
      rw [isListFree, Bool.and_eq_true, inductionHypothesis, List.forall_mem_cons, and_assoc]

end TypeExpr

/-! ## Tree literals are type expressions -/

namespace BinaryTree

mutual

theorem Spells.inTreeVocabulary :
    forall {tokens : List Token} {tree : BinaryTree}, Spells tokens tree ->
      tokens.all Token.inTreeVocabulary = true
  | _, _, .literal denoted => by
      rw [List.all_cons, Token.inTreeVocabulary, denoted.tree?_eq, Option.isSome_some, List.all_nil,
        Bool.and_self]
  | _, _, .node left right => by
      simp only [List.all_cons, List.all_append, List.all_nil, Token.inTreeVocabulary,
        left.inTreeVocabulary, right.inTreeVocabulary, Bool.and_self]
  | _, _, .emptyList => rfl
  | _, _, .list items => by
      simp only [List.all_cons, List.all_append, List.all_nil, Token.inTreeVocabulary,
        items.inTreeVocabulary, Bool.and_self]

theorem SpellsItems.inTreeVocabulary :
    forall {tokens : List Token} {items : List BinaryTree}, SpellsItems tokens items ->
      tokens.all Token.inTreeVocabulary = true
  | _, _, .single spelled => spelled.inTreeVocabulary
  | _, _, .comma earlier spelled => by
      simp only [List.all_cons, List.all_append, Token.inTreeVocabulary,
        earlier.inTreeVocabulary, spelled.inTreeVocabulary, Bool.and_self]

end

mutual

/-- A spelled tree is spelled by an atom with the same tokens, whose value is that tree. -/
theorem Spells.exists_spellsAtom {config : Config}
    (terminated : config.listTerminator.tree? = some .nil) :
    forall {tokens : List Token} {tree : BinaryTree}, Spells tokens tree ->
      exists value, TypeExpr.SpellsAtom config tokens value ∧ value.value? = some tree
  | _, _, @Spells.literal literal _ denoted =>
      ⟨.leaf literal, .literal literal, denoted.tree?_eq⟩
  | _, _, .node left right => by
      rcases left.exists_spellsAtom terminated with ⟨leftExpr, leftAtom, leftValue⟩
      rcases right.exists_spellsAtom terminated with ⟨rightExpr, rightAtom, rightValue⟩
      have atom := TypeExpr.SpellsAtom.tree (.single leftAtom) (.single rightAtom)
      rw [TypeExpr.ofMembers_members leftAtom.isNormal,
        TypeExpr.ofMembers_members rightAtom.isNormal] at atom
      exact ⟨_, atom, TypeExpr.value?_tree_eq_some_iff.mpr ⟨_, _, leftValue, rightValue, rfl⟩⟩
  | _, _, .emptyList => ⟨_, .emptyList, terminated⟩
  | _, _, .list items => by
      rcases items.exists_spellsElements terminated with
        ⟨front, back, elements, last, rfl, earlier, lastAtom, valued⟩
      have atom := TypeExpr.SpellsAtom.closedList earlier (.single lastAtom)
      rw [TypeExpr.ofMembers_members lastAtom.isNormal] at atom
      exact ⟨_, atom, TypeExpr.value?_fixedList valued terminated⟩

/-- Spelled items are elements of a fixed list, each with its comma, and an atom behind them. -/
theorem SpellsItems.exists_spellsElements {config : Config}
    (terminated : config.listTerminator.tree? = some .nil) :
    forall {tokens : List Token} {items : List BinaryTree}, SpellsItems tokens items ->
      exists front back elements last, tokens = front ++ back ∧
        TypeExpr.SpellsElements config front elements ∧ TypeExpr.SpellsAtom config back last ∧
        (elements ++ [last]).map TypeExpr.value? = items.map some
  | tokens, _, .single spelled => by
      rcases spelled.exists_spellsAtom terminated with ⟨value, atom, valued⟩
      exact ⟨[], tokens, [], value, rfl, .none, atom, by simp [valued]⟩
  | _, _, .comma others spelled => by
      rcases others.exists_spellsElements terminated with
        ⟨front, back, elements, last, rfl, earlier, lastAtom, othersValued⟩
      rcases spelled.exists_spellsAtom terminated with ⟨value, atom, valued⟩
      have longer := TypeExpr.SpellsElements.comma earlier (.single lastAtom)
      rw [TypeExpr.ofMembers_members lastAtom.isNormal] at longer
      exact ⟨_, _, _, value, by simp, longer, atom,
        TypeExpr.map_value?_concat othersValued valued⟩

end

end BinaryTree

/-! ## Type expressions in the vocabulary of trees -/

namespace TypeExpr

mutual

/-- A list-free atom in the vocabulary of trees has a value and spells it. -/
theorem SpellsAtom.exists_spells {config : Config}
    (terminated : config.listTerminator.tree? = some .nil) :
    forall {tokens : List Token} {value : TypeExpr}, SpellsAtom config tokens value ->
      tokens.all Token.inTreeVocabulary = true -> value.isListFree = true ->
      exists tree, value.value? = some tree ∧ BinaryTree.Spells tokens tree
  | _, _, .literal literal, plain, _ => by
      rw [List.all_cons, Bool.and_eq_true, Token.inTreeVocabulary,
        Option.isSome_iff_exists] at plain
      rcases plain.1 with ⟨tree, valued⟩
      exact ⟨tree, valued, .literal (Literal.tree?_eq_some_iff.mp valued)⟩
  | _, _, .group _, plain, _ => by cases plain
  | _, _, .tree left right, plain, free => by
      simp only [List.all_cons, List.all_append, Bool.and_eq_true] at plain
      rw [isListFree, Bool.and_eq_true] at free
      rcases left.exists_spells terminated plain.2.1 free.1 with ⟨leftTree, leftValue, leftSpelled⟩
      rcases right.exists_spells terminated plain.2.2.2.1 free.2 with
        ⟨rightTree, rightValue, rightSpelled⟩
      exact ⟨_, value?_tree_eq_some_iff.mpr ⟨_, _, leftValue, rightValue, rfl⟩,
        .node leftSpelled rightSpelled⟩
  | _, _, .emptyList, _, _ => ⟨.nil, terminated, .emptyList⟩
  | _, _, .closedList earlier last, plain, free => by
      simp only [List.all_cons, List.all_append, Bool.and_eq_true] at plain
      rw [isListFree_fixedList, List.forall_mem_append, List.forall_mem_singleton] at free
      rcases earlier.exists_spellsBracket terminated plain.2.1.1 free.1.1 with
        ⟨items, itemsValued, opened⟩
      rcases last.exists_spells terminated plain.2.1.2 free.1.2 with ⟨tree, valued, spelled⟩
      rcases opened.spellsItems spelled with ⟨tokens, same, listed⟩
      cases same
      have allValued := map_value?_concat itemsValued valued
      exact ⟨_, value?_fixedList allValued terminated, .list listed⟩
  | _, _, .openList _, plain, _ => by
      simp [Token.inTreeVocabulary] at plain
  | _, _, .listOf _, _, free => by cases free

theorem SpellsMembers.exists_spells {config : Config}
    (terminated : config.listTerminator.tree? = some .nil) :
    forall {tokens : List Token} {members : List Alternative},
      SpellsMembers config tokens members ->
      tokens.all Token.inTreeVocabulary = true -> (ofMembers members).isListFree = true ->
      exists tree, (ofMembers members).value? = some tree ∧ BinaryTree.Spells tokens tree
  | _, _, .single atom, plain, free => by
      rw [ofMembers_members atom.isNormal] at free ⊢
      exact atom.exists_spells terminated plain free
  | _, _, .bar _ _, plain, _ => by
      simp [Token.inTreeVocabulary] at plain

/-- Elements with their commas are the items of a list that is still open. -/
theorem SpellsElements.exists_spellsBracket {config : Config}
    (terminated : config.listTerminator.tree? = some .nil) :
    forall {tokens : List Token} {elements : List TypeExpr},
      SpellsElements config tokens elements -> tokens.all Token.inTreeVocabulary = true ->
      (forall element, element ∈ elements -> element.isListFree = true) ->
      exists items, elements.map value? = items.map some ∧
        BinaryTree.SpellsBracket (.punct .lbracket :: tokens) (.items items)
  | _, _, .none, _, _ => ⟨[], rfl, .firstItem⟩
  | _, _, .comma earlier last, plain, free => by
      simp only [List.all_cons, List.all_append, Bool.and_eq_true] at plain
      rw [List.forall_mem_append, List.forall_mem_singleton] at free
      rcases earlier.exists_spellsBracket terminated plain.1.1 free.1 with
        ⟨items, itemsValued, opened⟩
      rcases last.exists_spells terminated plain.1.2 free.2 with ⟨tree, valued, spelled⟩
      rcases opened.spellsItems spelled with ⟨tokens, same, listed⟩
      cases same
      exact ⟨_, map_value?_concat itemsValued valued, .nextItem listed⟩

end

end TypeExpr

/-! ## The readers agree -/

namespace BinaryTree

/-- The tree reader takes exactly the lists of its own vocabulary that the strict reader of type
expressions takes without building a list, and its tree is the value of the expression. -/
theorem parse_eq_ok_iff_strict_value {tokens : List Token} (nonempty : tokens ≠ [])
    (tree : BinaryTree) :
    parse tokens = .ok tree <->
      tokens.all Token.inTreeVocabulary = true ∧
      exists expr, TypeExpr.parse .strict tokens = .ok expr ∧ expr.isListFree = true ∧
        expr.value? = some tree := by
  have terminated : Config.strict.listTerminator.tree? = some .nil := rfl
  rw [parse_eq_ok_iff_of_ne_nil nonempty]
  constructor
  · intro spelled
    rcases spelled.exists_spellsAtom terminated with ⟨expr, atom, valued⟩
    have expression : TypeExpr.Spells .strict tokens expr :=
      ⟨_, .single atom, (TypeExpr.ofMembers_members atom.isNormal).symm⟩
    refine ⟨spelled.inTreeVocabulary, expr, ?_, TypeExpr.isListFree_of_value? valued, valued⟩
    rw [TypeExpr.parse, expression.read_eq]
  · rintro ⟨plain, expr, finished, free, valued⟩
    rw [TypeExpr.parse_eq_ok_iff_of_reject rfl nonempty] at finished
    rcases finished with ⟨members, level, rfl⟩
    rcases level.exists_spells terminated plain free with ⟨own, ownValue, spelled⟩
    rw [ownValue, Option.some.injEq] at valued
    exact valued ▸ spelled

/-- The empty list inside is no suffix, so both readers see the same two items. -/
theorem parse_list_of_empty_list_and_node :
    parse [.punct .lbracket, .punct .lbracket, .punct .rbracket, .punct .comma, .punct .langle,
        Token.name "true", .punct .dot, Token.int 1, .punct .rangle, .punct .rbracket] =
      .ok (.node .nil (.node (.node (.node .nil .nil) (.node .nil .nil)) .nil)) := by
  apply (parse_eq_ok_iff_strict_value (List.cons_ne_nil _ _) _).mpr
  exact ⟨rfl, .tree (.leaf (.name "nil"))
    (.tree (.tree (.leaf (.name "true")) (.leaf (.int 1))) (.leaf (.name "nil"))), rfl, rfl, rfl⟩

end BinaryTree
end TreeShapes
