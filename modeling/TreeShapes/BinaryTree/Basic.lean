import TreeShapes.Literal
import TreeShapes.ProgramAtom

namespace TreeShapes

/-!
# Binary trees

Trees are data here: a number is the list of that many empty trees, a list is
a chain of nodes that ends in the empty tree.  A tree may be as deep as it is
large, so equality is decided with an explicit list of pending pairs.
-/

/-- A concrete binary tree. -/
inductive BinaryTree where
  | nil
  | node (left right : BinaryTree)

namespace BinaryTree

/-- The tree that stands for truth. -/
def truth : BinaryTree :=
  .node .nil .nil

/-- The list of `count` empty trees. -/
def ofNumber (count : Nat) : BinaryTree :=
  Nat.repeat (node nil) count nil

/-- The chain of nodes over the items, ending in the empty tree. -/
def ofList (items : List BinaryTree) : BinaryTree :=
  items.foldr node nil

def isNil : BinaryTree -> Bool
  | nil => true
  | node _ _ => false

/-- Count on from `count` along the right spine, as long as every head is empty. -/
def countFrom : Nat -> BinaryTree -> Option Nat
  | count, nil => some count
  | count, node nil right => countFrom (count + 1) right
  | _, node (node _ _) _ => none

def number? (tree : BinaryTree) : Option Nat :=
  countFrom 0 tree

def nodeCount : BinaryTree -> Nat
  | nil => 0
  | node left right => left.nodeCount + right.nodeCount + 1

/-! ## Equality -/

/-- The steps that comparing a pending list of pairs can take. -/
def pendingSize : List (BinaryTree × BinaryTree) -> Nat
  | [] => 0
  | (first, _) :: rest => 2 * first.nodeCount + 1 + pendingSize rest

/-- Whether every pending pair consists of equal trees.  A pair of nodes is replaced by the pairs
of their children, so no recursion is as deep as the trees. -/
def allEqual : List (BinaryTree × BinaryTree) -> Bool
  | [] => true
  | (nil, nil) :: rest => allEqual rest
  | (node left right, node otherLeft otherRight) :: rest =>
      allEqual ((right, otherRight) :: (left, otherLeft) :: rest)
  | (nil, node _ _) :: _ => false
  | (node _ _, nil) :: _ => false
termination_by pending => pendingSize pending
decreasing_by
  all_goals
    simp only [pendingSize, nodeCount]
    omega

theorem allEqual_iff (pending : List (BinaryTree × BinaryTree)) :
    allEqual pending = true <-> forall pair, pair ∈ pending -> pair.1 = pair.2 := by
  fun_induction allEqual pending with
  | case1 => simp
  | case2 rest ih => simpa using ih
  | case3 left right otherLeft otherRight rest ih =>
      rw [ih]
      simp only [List.mem_cons, forall_eq_or_imp, node.injEq]
      constructor
      · rintro ⟨rightSame, leftSame, others⟩
        exact ⟨⟨leftSame, rightSame⟩, others⟩
      · rintro ⟨⟨leftSame, rightSame⟩, others⟩
        exact ⟨rightSame, leftSame, others⟩
  | case4 => simp
  | case5 => simp

def same (first second : BinaryTree) : Bool :=
  allEqual [(first, second)]

theorem same_iff {first second : BinaryTree} :
    first.same second = true <-> first = second := by
  simp [same, allEqual_iff]

instance : DecidableEq BinaryTree := fun first second =>
  decidable_of_iff (first.same second = true) same_iff

/-! ## Values of literals -/

def maxNumber : UInt64 := 1048576

def ofLimited? (value : UInt64) : Option BinaryTree :=
  if value <= maxNumber then some (ofNumber value.toNat) else none

end BinaryTree

/-- The tree that a literal stands for: the reserved names, numbers within the limit, and
program atoms have one. -/
def Literal.tree? (literal : Literal) : Option BinaryTree :=
  if literal.isName nilSpelling || literal.isName falseSpelling then
    some .nil
  else if literal.isName trueSpelling then
    some .truth
  else
    match literal with
    | .int value => BinaryTree.ofLimited? value
    | .name spelling => (ProgramAtom.valueOf? spelling).bind BinaryTree.ofLimited?

end TreeShapes
