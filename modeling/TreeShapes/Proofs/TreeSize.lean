import TreeShapes.Proofs.TreeGrammar

namespace TreeShapes

/-!
# A tree is not larger than its tokens allow

Every token of a tree literal accounts for a bounded number of nodes.  A literal
accounts for at most as many as the largest number has, because a larger number
has no value at all.  Every mark accounts for one: the node of a pair is charged
to its left bracket, the node of a list item to the comma or bracket behind it.
Summed up over a derivation this bounds the nodes of the whole tree, whatever
numbers the literals are.
-/

namespace BinaryTree

/-- The nodes that the tokens may account for: the largest number for each literal, and one node
for each mark. -/
def nodeBudget (tokens : List Token) : Nat :=
  maxNumber.toNat * (tokens.filterMap Token.literal?).length +
    (tokens.filterMap Token.punctuation?).length

theorem nodeBudget_append (tokens more : List Token) :
    nodeBudget (tokens ++ more) = nodeBudget tokens + nodeBudget more := by
  unfold nodeBudget
  rw [List.filterMap_append, List.filterMap_append, List.length_append, List.length_append,
    Nat.mul_add]
  omega

theorem nodeBudget_literal (literal : Literal) :
    nodeBudget [.literal literal] = maxNumber.toNat := by
  simp [nodeBudget, Token.literal?, Token.punctuation?]

theorem nodeBudget_punct (mark : Punctuation) (tokens : List Token) :
    nodeBudget (.punct mark :: tokens) = nodeBudget tokens + 1 := rfl

/-! ## Nodes of lists and literals -/

/-- An item adds its own nodes and the one that holds it. -/
theorem nodeCount_ofList_concat (items : List BinaryTree) (last : BinaryTree) :
    (ofList (items ++ [last])).nodeCount = (ofList items).nodeCount + last.nodeCount + 1 := by
  induction items with
  | nil => simp [ofList, nodeCount]
  | cons item items inductionHypothesis =>
      change item.nodeCount + (ofList (items ++ [last])).nodeCount + 1 =
        item.nodeCount + (ofList items).nodeCount + 1 + last.nodeCount + 1
      rw [inductionHypothesis]
      omega

theorem nodeCount_ofList_replicate (count : Nat) :
    (ofList (List.replicate count nil)).nodeCount = count := by
  induction count with
  | zero => rfl
  | succ count inductionHypothesis =>
      rw [List.replicate_succ', nodeCount_ofList_concat, inductionHypothesis]
      rfl

/-- No literal stands for more nodes than the largest number has. -/
theorem nodeCount_le_of_denotes {literal : Literal} {tree : BinaryTree}
    (denoted : literal.Denotes tree) : tree.nodeCount ≤ maxNumber.toNat := by
  cases denoted with
  | nil => exact Nat.zero_le _
  | falsity => exact Nat.zero_le _
  | truth => decide
  | number limited =>
      rw [nodeCount_ofList_replicate]
      exact limited
  | programAtom listed =>
      rw [nodeCount_ofList_replicate]
      exact ProgramAtom.value_le_maxNumber listed

/-! ## Nodes of spelled trees -/

mutual

theorem Spells.nodeCount_le :
    forall {tokens : List Token} {tree : BinaryTree}, Spells tokens tree ->
      tree.nodeCount ≤ nodeBudget tokens
  | _, _, .literal denoted => by
      rw [nodeBudget_literal]
      exact nodeCount_le_of_denotes denoted
  | _, _, .node left right => by
      have leftBound := left.nodeCount_le
      have rightBound := right.nodeCount_le
      simp only [nodeCount, nodeBudget_punct, nodeBudget_append]
      omega
  | _, _, .emptyList => Nat.zero_le _
  | _, _, .list items => by
      have bound := items.nodeCount_le
      simp only [nodeBudget_punct, nodeBudget_append]
      omega

/-- The last item has no comma behind it; the bracket that closes the list pays for it. -/
theorem SpellsItems.nodeCount_le :
    forall {tokens : List Token} {items : List BinaryTree}, SpellsItems tokens items ->
      (ofList items).nodeCount ≤ nodeBudget tokens + 1
  | _, _, .single spelled => by
      have bound := spelled.nodeCount_le
      simp only [ofList, List.foldr, nodeCount]
      omega
  | _, _, .comma earlier spelled => by
      have earlierBound := earlier.nodeCount_le
      have bound := spelled.nodeCount_le
      rw [nodeCount_ofList_concat]
      simp only [nodeBudget_punct, nodeBudget_append]
      omega

end

/-- A tree that is read has at most 1048576 nodes for each literal among its tokens and one for each
mark, whatever numbers occur. -/
theorem parse_nodeCount_le {tokens : List Token} {tree : BinaryTree}
    (finished : parse tokens = .ok tree) :
    maxNumber.toNat = 1048576 ∧
    tree.nodeCount ≤ maxNumber.toNat * (tokens.filterMap Token.literal?).length +
      (tokens.filterMap Token.punctuation?).length := by
  refine ⟨rfl, ?_⟩
  by_cases empty : tokens = []
  · subst empty
    cases finished
    exact Nat.zero_le _
  · exact ((parse_eq_ok_iff_of_ne_nil empty).mp finished).nodeCount_le

/-- A list that holds the largest number twice. -/
theorem parse_largest_numbers_nodeCount_le :
    parse [.punct .lbracket, Token.int maxNumber, .punct .comma, Token.int maxNumber,
        .punct .rbracket] =
      .ok (ofList [ofNumber maxNumber.toNat, ofNumber maxNumber.toNat]) ∧
    (ofList [ofNumber maxNumber.toNat, ofNumber maxNumber.toNat]).nodeCount ≤
      maxNumber.toNat * 2 + 3 := by
  have number : Spells [Token.int maxNumber] (ofNumber maxNumber.toNat) := by
    rw [ofNumber_eq_ofList]
    exact .literal (.number (UInt64.le_refl _))
  have spelled : Spells [.punct .lbracket, Token.int maxNumber, .punct .comma,
      Token.int maxNumber, .punct .rbracket]
        (ofList [ofNumber maxNumber.toNat, ofNumber maxNumber.toNat]) :=
    .list (.comma (.single number) number)
  have finished := (parse_eq_ok_iff_of_ne_nil spelled.ne_nil).mpr spelled
  exact ⟨finished, (parse_nodeCount_le finished).2⟩

end BinaryTree
end TreeShapes
