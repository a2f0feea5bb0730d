import TreeShapes.BinaryTree.Basic

namespace TreeShapes
namespace BinaryTree

/-!
# Comparing trees comes to an end with the right answer

Two trees are compared with a list of pending pairs.  A round takes the topmost
pair: two empty trees are dropped, two nodes are replaced by the pairs of their
children, and any other pair settles the answer.  A round keeps what the pending
pairs say about equality, so that the last round answers the question that was
asked first.

That there is a last round needs a quantity that shrinks although two pairs may
take the place of one.  It is counted in the nodes that the trees of a pair
share: a pair costs one round and two more for each shared node, and the
children of two nodes share one node less than these do.  A comparison is
therefore bounded by either of the two trees, however large the other one is.
-/

/-! ## Rounds -/

/-- What a round of a comparison comes to. -/
inductive Round where
  | settled (answer : Bool)
  | pending (pairs : List (BinaryTree × BinaryTree))

def round : List (BinaryTree × BinaryTree) -> Round
  | [] => .settled true
  | (nil, nil) :: rest => .pending rest
  | (node left right, node otherLeft otherRight) :: rest =>
      .pending ((right, otherRight) :: (left, otherLeft) :: rest)
  | (nil, node _ _) :: _ => .settled false
  | (node _ _, nil) :: _ => .settled false

/-- The answer of a comparison, if it is settled within the given number of rounds. -/
def answerWithin : Nat -> List (BinaryTree × BinaryTree) -> Option Bool
  | 0, _ => none
  | rounds + 1, pairs =>
      match round pairs with
      | .settled answer => some answer
      | .pending next => answerWithin rounds next

section Rounds

variable {pairs next : List (BinaryTree × BinaryTree)} {answer : Bool}

/-- The round that settles the answer gives the right one. -/
theorem allEqual_of_settled (settled : round pairs = .settled answer) :
    allEqual pairs = answer := by
  fun_cases round pairs with
  | case1 =>
      cases settled
      rw [allEqual]
  | case2 => cases settled
  | case3 => cases settled
  | case4 =>
      cases settled
      rw [allEqual]
  | case5 =>
      cases settled
      rw [allEqual]

/-- The pairs that a round leaves are all equal exactly if those before it are. -/
theorem allEqual_of_pending (pending : round pairs = .pending next) :
    allEqual pairs = allEqual next := by
  fun_cases round pairs with
  | case1 => cases pending
  | case2 =>
      cases pending
      rw [allEqual]
  | case3 =>
      cases pending
      rw [allEqual]
  | case4 => cases pending
  | case5 => cases pending

end Rounds

/-! ## The number of rounds -/

/-- How many nodes two trees have at the same places, with nodes of both all the way above. -/
def sharedCount : BinaryTree -> BinaryTree -> Nat
  | node left right, node otherLeft otherRight =>
      left.sharedCount otherLeft + right.sharedCount otherRight + 1
  | nil, _ => 0
  | node _ _, nil => 0

theorem sharedCount_le_left (first second : BinaryTree) :
    first.sharedCount second ≤ first.nodeCount := by
  fun_induction sharedCount first second with
  | case1 left right otherLeft otherRight leftHypothesis rightHypothesis =>
      rw [nodeCount]
      omega
  | case2 => exact Nat.zero_le _
  | case3 => exact Nat.zero_le _

theorem sharedCount_le_right (first second : BinaryTree) :
    first.sharedCount second ≤ second.nodeCount := by
  fun_induction sharedCount first second with
  | case1 left right otherLeft otherRight leftHypothesis rightHypothesis =>
      rw [nodeCount]
      omega
  | case2 => exact Nat.zero_le _
  | case3 => exact Nat.zero_le _

/-- The rounds that suffice for the pending pairs.  One is for finding that nothing is left. -/
def roundsFor : List (BinaryTree × BinaryTree) -> Nat
  | [] => 1
  | (first, second) :: rest => 2 * first.sharedCount second + 1 + roundsFor rest

theorem roundsFor_pos (pairs : List (BinaryTree × BinaryTree)) : 0 < roundsFor pairs := by
  cases pairs with
  | nil => exact Nat.zero_lt_one
  | cons pair rest =>
      rw [roundsFor]
      omega

theorem roundsFor_lt_of_pending {pairs next : List (BinaryTree × BinaryTree)}
    (pending : round pairs = .pending next) : roundsFor next < roundsFor pairs := by
  fun_cases round pairs with
  | case1 => cases pending
  | case2 =>
      cases pending
      rw [roundsFor]
      omega
  | case3 =>
      cases pending
      simp only [roundsFor, sharedCount]
      omega
  | case4 => cases pending
  | case5 => cases pending

/-- With enough rounds a comparison is settled, and its answer is right. -/
theorem answerWithin_eq_some_allEqual {rounds : Nat} {pairs : List (BinaryTree × BinaryTree)}
    (enough : roundsFor pairs ≤ rounds) : answerWithin rounds pairs = some (allEqual pairs) := by
  induction rounds generalizing pairs with
  | zero =>
      have positive := roundsFor_pos pairs
      omega
  | succ rounds inductionHypothesis =>
      rw [answerWithin]
      cases outcome : round pairs with
      | settled answer =>
          change some answer = _
          rw [allEqual_of_settled outcome]
      | pending next =>
          change answerWithin rounds next = _
          have fewer := roundsFor_lt_of_pending outcome
          rw [allEqual_of_pending outcome]
          apply inductionHypothesis
          omega

/-- Comparing two trees takes at most two rounds more than twice the nodes of either of them, and
then the answer is `same`.  It is true exactly of a tree and itself, so that `same` is an
equivalence. -/
theorem same_settles_equality :
    (forall first second : BinaryTree,
      (forall rounds,
        2 * first.nodeCount + 2 ≤ rounds ∨ 2 * second.nodeCount + 2 ≤ rounds ->
          answerWithin rounds [(first, second)] = some (first.same second)) ∧
      (first.same second = true <-> first = second)) ∧
    Equivalence fun first second : BinaryTree => first.same second = true := by
  refine ⟨?_, ?_⟩
  · intro first second
    refine ⟨?_, same_iff⟩
    intro rounds enough
    apply answerWithin_eq_some_allEqual
    have left := sharedCount_le_left first second
    have right := sharedCount_le_right first second
    simp only [roundsFor]
    omega
  · refine ⟨?_, ?_, ?_⟩
    · intro tree
      exact same_iff.mpr rfl
    · intro first second same
      exact same_iff.mpr (same_iff.mp same).symm
    · intro first second third same following
      exact same_iff.mpr ((same_iff.mp same).trans (same_iff.mp following))

/-- A chain to the right and its mirror image have equally many nodes and are told apart. -/
theorem same_settles_mirrored_chain :
    answerWithin 6 [(node nil (node nil nil), node (node nil nil) nil)] =
      some ((node nil (node nil nil)).same (node (node nil nil) nil)) ∧
    (node nil (node nil nil)).same (node (node nil nil) nil) = false := by
  have compared := same_settles_equality.1 (node nil (node nil nil)) (node (node nil nil) nil)
  have different : node nil (node nil nil) ≠ node (node nil nil) nil := by
    intro equal
    cases equal
  refine ⟨compared.1 6 (Or.inl (by decide)), ?_⟩
  apply Bool.eq_false_iff.mpr
  intro same
  exact different (compared.2.mp same)

end BinaryTree
end TreeShapes
