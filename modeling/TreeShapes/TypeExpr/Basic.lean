import TreeShapes.Literal

namespace TreeShapes

/-!
# Type expressions

A type expression describes a set of binary trees: a choice of alternatives, a
list of one type, or a tree of two.  The order of alternatives matters and
repetitions are kept.  The builders splice: an alternative that is itself a
choice contributes its members, so that choices stay flat.
-/

mutual

/-- A description of a set of binary trees. -/
inductive TypeExpr where
  /-- Whatever one of the alternatives describes. -/
  | choice (members : List Alternative)
  /-- Lists whose every element is described by `element`. -/
  | list (element : TypeExpr)
  /-- Nodes whose children are described by `left` and `right`. -/
  | tree (left right : TypeExpr)

inductive Alternative where
  | leaf (literal : Literal)
  | node (expr : TypeExpr)

end

namespace Alternative

def isLeaf : Alternative -> Bool
  | leaf _ => true
  | node _ => false

end Alternative

namespace TypeExpr

/-- The choice of a single literal. -/
def leaf (literal : Literal) : TypeExpr :=
  .choice [.leaf literal]

/-- What an expression contributes to a choice around it: a choice contributes its members,
any other expression itself. -/
def members : TypeExpr -> List Alternative
  | choice members => members
  | list element => [.node (.list element)]
  | tree left right => [.node (.tree left right)]

/-- The expression with the given members.  A single node needs no choice around it; a single
literal keeps one. -/
def ofMembers : List Alternative -> TypeExpr
  | [.node expr] => expr
  | members => .choice members

/-- A list written out with its elements: right-nested trees that end in `tail`. -/
def fixedList (elements : List TypeExpr) (tail : TypeExpr) : TypeExpr :=
  elements.foldr tree tail

/-- The expression inside `layers` list layers. -/
def nested (layers : Nat) (expr : TypeExpr) : TypeExpr :=
  Nat.repeat list layers expr

end TypeExpr

/-- What an alternative contributes to a choice that it is added to. -/
def Alternative.members : Alternative -> List Alternative
  | leaf literal => [.leaf literal]
  | node expr => expr.members

namespace TypeExpr

/-- Add an alternative at the end of a choice; other expressions stay as they are. -/
def push : TypeExpr -> Alternative -> TypeExpr
  | choice members, alternative => .choice (members ++ alternative.members)
  | list element, _ => .list element
  | tree left right, _ => .tree left right

/-- The choice that arises from adding the given alternatives in order. -/
def ofAlternatives (alternatives : List Alternative) : TypeExpr :=
  alternatives.foldl push (.choice [])

/-! ## Observations -/

def alternatives? : TypeExpr -> Option (List Alternative)
  | choice members => some members
  | list _ => none
  | tree _ _ => none

/-- How many list layers stand directly around the expression. -/
def listDepth : TypeExpr -> Nat
  | list element => element.listDepth + 1
  | choice _ => 0
  | tree _ _ => 0

def leafCount? (expr : TypeExpr) : Option Nat :=
  expr.alternatives?.map (List.countP Alternative.isLeaf)

/-! ## Equality -/

mutual

/-- Equality of expressions, decided by walking both together. -/
def decideEq : (first second : TypeExpr) -> Decidable (first = second)
  | choice members, choice others =>
      have := decideMembersEq members others
      decidable_of_iff (members = others) (by simp)
  | list element, list other =>
      have := decideEq element other
      decidable_of_iff (element = other) (by simp)
  | tree left right, tree otherLeft otherRight =>
      have := decideEq left otherLeft
      have := decideEq right otherRight
      decidable_of_iff (left = otherLeft ∧ right = otherRight) (by simp)
  | choice _, list _ | choice _, tree _ _ | list _, choice _ | list _, tree _ _
  | tree _ _, choice _ | tree _ _, list _ => isFalse (by intro same; cases same)

def decideAlternativeEq : (first second : Alternative) -> Decidable (first = second)
  | .leaf literal, .leaf other => decidable_of_iff (literal = other) (by simp)
  | .node expr, .node other =>
      have := decideEq expr other
      decidable_of_iff (expr = other) (by simp)
  | .leaf _, .node _ | .node _, .leaf _ => isFalse (by intro same; cases same)

def decideMembersEq : (first second : List Alternative) -> Decidable (first = second)
  | [], [] => isTrue rfl
  | head :: rest, other :: others =>
      have := decideAlternativeEq head other
      have := decideMembersEq rest others
      decidable_of_iff (head = other ∧ rest = others) (by simp)
  | [], _ :: _ | _ :: _, [] => isFalse (by intro same; cases same)

end

instance : DecidableEq TypeExpr := decideEq

instance : DecidableEq Alternative := decideAlternativeEq

/-! ## Laws of the builders -/

/-- The members of an expression determine how it joins a choice. -/
@[simp] theorem members_choice (alternatives : List Alternative) :
    (choice alternatives).members = alternatives := rfl

@[simp] theorem members_node (expr : TypeExpr) :
    (Alternative.node expr).members = expr.members := rfl

theorem foldl_push_choice (alternatives earlier : List Alternative) :
    alternatives.foldl push (.choice earlier) =
      .choice (earlier ++ alternatives.flatMap Alternative.members) := by
  induction alternatives generalizing earlier with
  | nil => simp
  | cons alternative rest ih => simp [push, ih]

/-- Adding alternatives in order concatenates what they contribute. -/
theorem ofAlternatives_eq (alternatives : List Alternative) :
    ofAlternatives alternatives = .choice (alternatives.flatMap Alternative.members) := by
  simp [ofAlternatives, foldl_push_choice]

end TypeExpr

end TreeShapes
