import TreeShapes.TypeExpr.Normal

namespace TreeShapes
namespace TypeExpr

/-!
# The builders keep choices flat

Adding an alternative to a choice splices one level: an alternative that is
itself a choice contributes its members, and these are taken as they are.  That
no choice holds a choice is therefore not the work of a single call.  It is kept
by every builder, from the parts to the whole, and so it holds of whatever the
builders put together.  Conversely the builders make every flat expression.

Splicing also makes choices behave like lists under concatenation.  This law
asks nothing of the alternatives: it holds of nested choices that no builder
makes as well.
-/

/-! ## Flat expressions -/

mutual

/-- Whether no choice at any depth has a choice as a member. -/
def isFlat : TypeExpr -> Bool
  | choice members => areFlatMembers members
  | list element => element.isFlat
  | tree left right => left.isFlat && right.isFlat

/-- Whether an alternative may be a member of a flat choice. -/
def isFlatMember : Alternative -> Bool
  | .leaf _ => true
  | .node expr => !expr.isChoice && expr.isFlat

def areFlatMembers : List Alternative -> Bool
  | [] => true
  | member :: members => isFlatMember member && areFlatMembers members

end

theorem areFlatMembers_append (members others : List Alternative) :
    areFlatMembers (members ++ others) = (areFlatMembers members && areFlatMembers others) := by
  induction members with
  | nil => rfl
  | cons member members inductionHypothesis =>
      rw [List.cons_append, areFlatMembers, areFlatMembers, inductionHypothesis, Bool.and_assoc]

/-- Whatever a flat expression contributes to a choice may be a member of a flat one. -/
theorem areFlatMembers_members {expr : TypeExpr} (flat : expr.isFlat = true) :
    areFlatMembers expr.members = true := by
  cases expr with
  | choice members => exact flat
  | list element =>
      rw [isFlat] at flat
      simp [members, areFlatMembers, isFlatMember, isChoice, isFlat, flat]
  | tree left right =>
      rw [isFlat] at flat
      simp [members, areFlatMembers, isFlatMember, isChoice, isFlat, flat]

/-- A member of a flat choice contributes itself. -/
theorem members_of_isFlatMember {member : Alternative} (flat : isFlatMember member = true) :
    member.members = [member] := by
  cases member with
  | leaf literal => rfl
  | node expr =>
      cases expr with
      | choice members => cases flat
      | list element => rfl
      | tree left right => rfl

/-! ## Adding alternatives -/

/-- Adding an alternative that contributes flat members keeps an expression flat. -/
theorem isFlat_push {expr : TypeExpr} {alternative : Alternative} (flat : expr.isFlat = true)
    (added : areFlatMembers alternative.members = true) : (expr.push alternative).isFlat = true := by
  cases expr with
  | choice members =>
      rw [isFlat] at flat
      rw [push, isFlat, areFlatMembers_append, flat, added]
      rfl
  | list element => exact flat
  | tree left right => exact flat

theorem isFlat_foldl_push {expr : TypeExpr} {alternatives : List Alternative}
    (flat : expr.isFlat = true)
    (added : forall alternative, alternative ∈ alternatives ->
      areFlatMembers alternative.members = true) :
    (alternatives.foldl push expr).isFlat = true := by
  induction alternatives generalizing expr with
  | nil => exact flat
  | cons alternative alternatives inductionHypothesis =>
      rw [List.forall_mem_cons] at added
      rw [List.foldl_cons]
      apply inductionHypothesis _ added.2
      exact isFlat_push flat added.1

/-- Flat members are left as they are when a choice is made of them. -/
theorem ofAlternatives_of_areFlatMembers {members : List Alternative}
    (flat : areFlatMembers members = true) : ofAlternatives members = .choice members := by
  rw [ofAlternatives_eq]
  congr 1
  induction members with
  | nil => rfl
  | cons member members inductionHypothesis =>
      rw [areFlatMembers, Bool.and_eq_true] at flat
      rw [List.flatMap_cons, members_of_isFlatMember flat.1, inductionHypothesis flat.2]
      rfl

/-! ## Built expressions -/

mutual

/-- The expression is put together by builders: no choice in it was written down as such. -/
inductive Built : TypeExpr -> Prop
  | leaf (literal : Literal) : Built (leaf literal)
  | list {element : TypeExpr} (built : Built element) : Built (.list element)
  | tree {left right : TypeExpr} (leftBuilt : Built left) (rightBuilt : Built right) :
      Built (.tree left right)
  | choice {alternatives : List Alternative}
      (built : forall alternative, alternative ∈ alternatives -> BuiltAlternative alternative) :
      Built (ofAlternatives alternatives)
  | push {expr : TypeExpr} {alternative : Alternative} (built : Built expr)
      (added : BuiltAlternative alternative) : Built (expr.push alternative)

/-- The alternative is a literal or holds an expression put together by builders. -/
inductive BuiltAlternative : Alternative -> Prop
  | leaf (literal : Literal) : BuiltAlternative (.leaf literal)
  | node {expr : TypeExpr} (built : Built expr) : BuiltAlternative (.node expr)

end

mutual

theorem Built.isFlat : forall {expr : TypeExpr}, Built expr -> expr.isFlat = true
  | _, .leaf literal => rfl
  | _, .list built => built.isFlat
  | _, .tree leftBuilt rightBuilt => by
      rw [TypeExpr.isFlat, Bool.and_eq_true]
      exact ⟨leftBuilt.isFlat, rightBuilt.isFlat⟩
  | _, .choice built => by
      apply isFlat_foldl_push rfl
      intro alternative listed
      exact (built alternative listed).areFlatMembers
  | _, .push built added => isFlat_push built.isFlat added.areFlatMembers

theorem BuiltAlternative.areFlatMembers :
    forall {alternative : Alternative}, BuiltAlternative alternative ->
      areFlatMembers alternative.members = true
  | _, .leaf literal => rfl
  | _, .node built => areFlatMembers_members built.isFlat

end

mutual

theorem built_of_isFlat : forall expr : TypeExpr, expr.isFlat = true -> Built expr
  | choice members, flat => by
      rw [isFlat] at flat
      rw [← ofAlternatives_of_areFlatMembers flat]
      exact .choice (built_of_areFlatMembers members flat)
  | list element, flat => .list (built_of_isFlat element flat)
  | tree left right, flat => by
      rw [isFlat, Bool.and_eq_true] at flat
      exact .tree (built_of_isFlat left flat.1) (built_of_isFlat right flat.2)

theorem built_of_isFlatMember :
    forall member : Alternative, isFlatMember member = true -> BuiltAlternative member
  | .leaf literal, _ => .leaf literal
  | .node expr, flat => by
      rw [isFlatMember, Bool.and_eq_true] at flat
      exact .node (built_of_isFlat expr flat.2)

theorem built_of_areFlatMembers :
    forall members : List Alternative, areFlatMembers members = true ->
      forall member, member ∈ members -> BuiltAlternative member
  | [], _ => by
      intro member listed
      cases listed
  | member :: members, flat => by
      rw [areFlatMembers, Bool.and_eq_true] at flat
      rw [List.forall_mem_cons]
      exact ⟨built_of_isFlatMember member flat.1, built_of_areFlatMembers members flat.2⟩

end

/-! ## Concatenation -/

/-- The alternatives with every choice among them replaced by its members, one level deep. -/
def spliced : List Alternative -> List Alternative
  | [] => []
  | .node (.choice members) :: alternatives => members ++ spliced alternatives
  | alternative :: alternatives => alternative :: spliced alternatives

/-- How many members an alternative contributes: those of a choice, and one otherwise. -/
def contribution : Alternative -> Nat
  | .leaf _ => 1
  | .node (.list _) => 1
  | .node (.tree _ _) => 1
  | .node (.choice members) => members.length

theorem flatMap_members_eq_spliced (alternatives : List Alternative) :
    alternatives.flatMap Alternative.members = spliced alternatives := by
  fun_induction spliced alternatives with
  | case1 => rfl
  | case2 members alternatives inductionHypothesis =>
      rw [List.flatMap_cons, inductionHypothesis]
      rfl
  | case3 alternative alternatives different inductionHypothesis =>
      rw [List.flatMap_cons, inductionHypothesis]
      cases alternative with
      | leaf literal => rfl
      | node expr =>
          cases expr with
          | choice members => exact absurd rfl (different members)
          | list element => rfl
          | tree left right => rfl

theorem length_members (alternative : Alternative) :
    alternative.members.length = contribution alternative := by
  cases alternative with
  | leaf literal => rfl
  | node expr => cases expr <;> rfl

theorem length_spliced (alternatives : List Alternative) :
    (spliced alternatives).length = (alternatives.map contribution).foldr Nat.add 0 := by
  rw [← flatMap_members_eq_spliced]
  induction alternatives with
  | nil => rfl
  | cons alternative alternatives inductionHypothesis =>
      rw [List.flatMap_cons, List.length_append, inductionHypothesis, length_members]
      rfl

/-- A choice of two choices is the choice of all their alternatives. -/
theorem ofAlternatives_append (alternatives others : List Alternative) :
    ofAlternatives (alternatives ++ others) =
      ofAlternatives [.node (ofAlternatives alternatives), .node (ofAlternatives others)] := by
  simp only [ofAlternatives_eq, List.flatMap_append, List.flatMap_cons, List.flatMap_nil,
    members_node, members_choice, List.append_nil]

theorem foldl_push_ofAlternatives (alternatives others : List Alternative) :
    others.foldl push (ofAlternatives alternatives) = ofAlternatives (alternatives ++ others) := by
  rw [ofAlternatives, ofAlternatives, List.foldl_append]

theorem alternatives?_ofAlternatives (alternatives : List Alternative) :
    (ofAlternatives alternatives).alternatives? = some (spliced alternatives) := by
  rw [ofAlternatives_eq, alternatives?, flatMap_members_eq_spliced]

/-- The builders make exactly the expressions in which no choice holds a choice.  A choice of two
choices is the choice of all their alternatives, and adding alternatives one by one comes to the
same.  The alternatives of a choice are those it was made of, in their order, with one level of
choices replaced by their members, and their number is the sum of what each contributes. -/
theorem built_flat_and_concatenated (expr : TypeExpr) (alternatives others : List Alternative) :
    (Built expr <-> expr.isFlat = true) ∧
    ofAlternatives (alternatives ++ others) =
      ofAlternatives [.node (ofAlternatives alternatives), .node (ofAlternatives others)] ∧
    others.foldl push (ofAlternatives alternatives) = ofAlternatives (alternatives ++ others) ∧
    (ofAlternatives alternatives).alternatives? = some (spliced alternatives) ∧
    (spliced alternatives).length = (alternatives.map contribution).foldr Nat.add 0 := by
  refine ⟨⟨?_, ?_⟩, ?_, ?_, ?_, ?_⟩
  · intro built
    exact built.isFlat
  · intro flat
    exact built_of_isFlat expr flat
  · exact ofAlternatives_append alternatives others
  · exact foldl_push_ofAlternatives alternatives others
  · exact alternatives?_ofAlternatives alternatives
  · exact length_spliced alternatives

/-- Splicing is one level deep: a choice written down inside another one stays there. -/
example : ofAlternatives [.node (.choice [.node (leaf (.name "a"))])] =
    .choice [.node (leaf (.name "a"))] := rfl

end TypeExpr
end TreeShapes
