import TreeShapes.Proofs.TypeGrammar
import TreeShapes.TypeExpr.Normal

namespace TreeShapes
namespace TypeExpr

/-!
# The results of reading are the normal expressions

A level of alternatives never nests a choice in a choice, because an atom that
is a choice contributes its members, and it never wraps a single list or tree,
because `ofMembers` gives that back as it is.  Every derivation of the grammar
therefore denotes a normal expression.

Conversely the members of a normal expression determine it, and its spelling is
a derivation of those members: literals stand for themselves, lists and trees
are atoms, and bars join them.  Reading inverts the spelling, so every normal
expression is the result of reading some token list.
-/

/-! ## Normality through the members of a level -/

theorem areNormalMembers_iff {members : List Alternative} :
    areNormalMembers members = true <->
      forall member, member ∈ members -> isNormalMember member = true := by
  induction members with
  | nil => simp [areNormalMembers]
  | cons member members inductionHypothesis =>
      rw [areNormalMembers, Bool.and_eq_true, inductionHypothesis, List.forall_mem_cons]

/-- A choice is normal if it has normal members and is not a wrapping of nothing or of one node. -/
theorem isNormal_choice_iff {members : List Alternative} :
    (choice members).isNormal = true <->
      areNormalMembers members = true ∧ members ≠ [] ∧ forall expr, members ≠ [.node expr] := by
  cases members with
  | nil => simp [isNormal]
  | cons member members =>
      cases members with
      | nil => cases member <;> simp [isNormal, areNormalMembers, isNormalMember]
      | cons second members => cases member <;> simp [isNormal, areNormalMembers]

/-- Whatever a normal expression contributes to a choice may be a member of a normal one. -/
theorem areNormalMembers_members {expr : TypeExpr} (normal : expr.isNormal = true) :
    areNormalMembers expr.members = true ∧ expr.members ≠ [] := by
  cases expr with
  | choice members =>
      have parts := isNormal_choice_iff.mp normal
      exact ⟨parts.1, parts.2.1⟩
  | list element =>
      rw [isNormal] at normal
      simp [members, areNormalMembers, isNormalMember, isChoice, isNormal, normal]
  | tree left right =>
      rw [isNormal] at normal
      simp [members, areNormalMembers, isNormalMember, isChoice, isNormal, normal]

theorem isNormal_ofMembers {members : List Alternative}
    (normal : areNormalMembers members = true ∧ members ≠ []) :
    (ofMembers members).isNormal = true := by
  by_cases single : exists expr, members = [.node expr]
  · rcases single with ⟨expr, rfl⟩
    have member := areNormalMembers_iff.mp normal.1 (.node expr) List.mem_cons_self
    rw [isNormalMember, Bool.and_eq_true] at member
    exact member.2
  · have different : forall expr, members ≠ [.node expr] :=
      fun expr same => single ⟨expr, same⟩
    rw [ofMembers]
    · exact isNormal_choice_iff.mpr ⟨normal.1, normal.2, different⟩
    · exact different

/-- A normal expression is the one that its members make. -/
theorem ofMembers_members {expr : TypeExpr} (normal : expr.isNormal = true) :
    ofMembers expr.members = expr := by
  cases expr with
  | choice members =>
      rw [members_choice, ofMembers]
      exact (isNormal_choice_iff.mp normal).2.2
  | list element => rfl
  | tree left right => rfl

/-- Normal members are the members of the expression that they make: one that is a node is no
choice. -/
theorem members_ofMembers {members : List Alternative}
    (normal : areNormalMembers members = true) : (ofMembers members).members = members := by
  by_cases single : exists expr, members = [.node expr]
  · rcases single with ⟨expr, rfl⟩
    cases expr with
    | choice nested => cases normal
    | list element => rfl
    | tree left right => rfl
  · rw [ofMembers, members_choice]
    exact fun expr same => single ⟨expr, same⟩

theorem isNormal_fixedList {elements : List TypeExpr} {tail : TypeExpr}
    (normal : forall element, element ∈ elements -> element.isNormal = true)
    (tailNormal : tail.isNormal = true) : (fixedList elements tail).isNormal = true := by
  induction elements with
  | nil => exact tailNormal
  | cons element elements inductionHypothesis =>
      rw [List.forall_mem_cons] at normal
      change (element.tree (fixedList elements tail)).isNormal = true
      rw [isNormal, Bool.and_eq_true]
      exact ⟨normal.1, inductionHypothesis normal.2⟩

theorem isNormal_leaf (literal : Literal) : (leaf literal).isNormal = true := rfl

/-! ## Derivations denote normal expressions -/

mutual

theorem SpellsAtom.isNormal {config : Config} :
    forall {tokens : List Token} {value : TypeExpr}, SpellsAtom config tokens value ->
      value.isNormal = true
  | _, _, .literal literal => isNormal_leaf literal
  | _, _, .group inner => isNormal_ofMembers inner.areNormalMembers
  | _, _, .tree left right => by
      rw [TypeExpr.isNormal, Bool.and_eq_true]
      exact ⟨isNormal_ofMembers left.areNormalMembers, isNormal_ofMembers right.areNormalMembers⟩
  | _, _, .emptyList => isNormal_leaf config.listTerminator
  | _, _, .closedList earlier last => by
      have final := isNormal_ofMembers last.areNormalMembers
      apply isNormal_fixedList _ (isNormal_leaf config.listTerminator)
      exact List.forall_mem_append.mpr ⟨earlier.areNormal, List.forall_mem_singleton.mpr final⟩
  | _, _, .openList earlier =>
      isNormal_fixedList earlier.areNormal (isNormal_leaf config.openTail)
  | _, _, .listOf atom => atom.isNormal

theorem SpellsMembers.areNormalMembers {config : Config} :
    forall {tokens : List Token} {members : List Alternative}, SpellsMembers config tokens members ->
      TypeExpr.areNormalMembers members = true ∧ members ≠ []
  | _, _, .single atom => areNormalMembers_members atom.isNormal
  | _, _, .bar earlier last => by
      have before := earlier.areNormalMembers
      have final := areNormalMembers_members last.isNormal
      refine ⟨?_, List.append_ne_nil_of_left_ne_nil before.2 _⟩
      rw [areNormalMembers_iff, List.forall_mem_append]
      exact ⟨areNormalMembers_iff.mp before.1, areNormalMembers_iff.mp final.1⟩

theorem SpellsElements.areNormal {config : Config} :
    forall {tokens : List Token} {elements : List TypeExpr},
      SpellsElements config tokens elements ->
        forall element, element ∈ elements -> element.isNormal = true
  | _, _, .none => by
      intro element listed
      cases listed
  | _, _, .comma earlier last => by
      have final := isNormal_ofMembers last.areNormalMembers
      exact List.forall_mem_append.mpr ⟨earlier.areNormal, List.forall_mem_singleton.mpr final⟩

end

theorem Spells.isNormal {config : Config} {tokens : List Token} {expr : TypeExpr}
    (spelled : Spells config tokens expr) : expr.isNormal = true := by
  rcases spelled with ⟨members, level, rfl⟩
  exact isNormal_ofMembers level.areNormalMembers

theorem SpellsAtom.spells {config : Config} {tokens : List Token} {value : TypeExpr}
    (atom : SpellsAtom config tokens value) : Spells config tokens value := by
  have kept := ofMembers_members atom.isNormal
  exact ⟨value.members, .single atom, kept.symm⟩

/-! ## Normal expressions are spelled -/

/-- A group with a suffix spells a list, once the group spells the members of its element. -/
theorem SpellsMembers.spellsAtom_list {config : Config} {element : TypeExpr}
    (inner : SpellsMembers config element.spell element.members)
    (normal : element.isNormal = true) :
    SpellsAtom config (list element).spell (.list element) := by
  have atom := SpellsAtom.listOf (.group inner)
  rw [ofMembers_members normal] at atom
  simpa only [spell, List.cons_append, List.append_assoc, List.nil_append] using atom

theorem SpellsMembers.spellsAtom_tree {config : Config} {left right : TypeExpr}
    (leftLevel : SpellsMembers config left.spell left.members)
    (rightLevel : SpellsMembers config right.spell right.members)
    (normal : (tree left right).isNormal = true) :
    SpellsAtom config (tree left right).spell (.tree left right) := by
  rw [TypeExpr.isNormal, Bool.and_eq_true] at normal
  have atom := SpellsAtom.tree leftLevel rightLevel
  rw [ofMembers_members normal.1, ofMembers_members normal.2] at atom
  simpa only [spell] using atom

mutual

theorem spellsMembers_spell (config : Config) :
    forall expr : TypeExpr, expr.isNormal = true -> SpellsMembers config expr.spell expr.members
  | choice [], normal => absurd rfl (isNormal_choice_iff.mp normal).2.1
  | choice (member :: members), normal => by
      have parts := (isNormal_choice_iff.mp normal).1
      rw [areNormalMembers, Bool.and_eq_true] at parts
      rcases spellsAtom_spellMember config member parts.1 with ⟨value, atom, same⟩
      have first : SpellsMembers config (spellMember member) [member] := same ▸ .single atom
      have level := first.append_spellMembers members parts.2
      simpa only [spell, members_choice, List.singleton_append] using level
  | list element, normal =>
      .single ((spellsMembers_spell config element normal).spellsAtom_list normal)
  | tree left right, normal => by
      have parts := normal
      rw [isNormal, Bool.and_eq_true] at parts
      exact .single ((spellsMembers_spell config left parts.1).spellsAtom_tree
        (spellsMembers_spell config right parts.2) normal)

theorem spellsAtom_spellMember (config : Config) :
    forall member : Alternative, isNormalMember member = true ->
      exists value, SpellsAtom config (spellMember member) value ∧ value.members = [member]
  | .leaf literal, _ => ⟨leaf literal, .literal literal, rfl⟩
  | .node (choice members), normal => by
      rw [isNormalMember, isChoice] at normal
      cases normal
  | .node (list element), normal => by
      rw [isNormalMember, isChoice, Bool.not_false, Bool.true_and] at normal
      exact ⟨.list element, (spellsMembers_spell config element normal).spellsAtom_list normal, rfl⟩
  | .node (tree left right), normal => by
      rw [isNormalMember, isChoice, Bool.not_false, Bool.true_and] at normal
      have parts := normal
      rw [isNormal, Bool.and_eq_true] at parts
      exact ⟨.tree left right, (spellsMembers_spell config left parts.1).spellsAtom_tree
        (spellsMembers_spell config right parts.2) normal, rfl⟩

theorem SpellsMembers.append_spellMembers {config : Config} {tokens : List Token}
    {earlier : List Alternative} (front : SpellsMembers config tokens earlier) :
    forall members : List Alternative, TypeExpr.areNormalMembers members = true ->
      SpellsMembers config (tokens ++ spellMembers members) (earlier ++ members)
  | [], _ => by simpa only [spellMembers, List.append_nil] using front
  | member :: members, normal => by
      rw [TypeExpr.areNormalMembers, Bool.and_eq_true] at normal
      rcases spellsAtom_spellMember config member normal.1 with ⟨value, atom, same⟩
      have longer := front.bar atom
      rw [same] at longer
      have level := longer.append_spellMembers members normal.2
      simpa only [spellMembers, List.append_assoc, List.cons_append, List.nil_append] using level

end

theorem spells_spell (config : Config) {expr : TypeExpr} (normal : expr.isNormal = true) :
    Spells config expr.spell expr :=
  ⟨expr.members, spellsMembers_spell config expr normal, (ofMembers_members normal).symm⟩

/-- Under every configuration the expressions that can be read are exactly the normal ones, and
the spelling of a normal expression is read as that expression, to its last token. -/
theorem exists_parse_eq_ok_iff_isNormal (config : Config) (expr : TypeExpr) :
    ((exists tokens, parse config tokens = .ok expr) <-> expr.isNormal = true) ∧
    (expr.isNormal = true -> read config expr.spell = ⟨.ok expr, []⟩) := by
  have completeness : expr.isNormal = true -> read config expr.spell = ⟨.ok expr, []⟩ :=
    fun normal => (spells_spell config normal).read_eq
  refine ⟨⟨?_, ?_⟩, completeness⟩
  · rintro ⟨tokens, finished⟩
    by_cases empty : tokens = []
    · subst tokens
      cases finished
      exact isNormal_leaf config.emptyInput
    · rcases Reading.result_eq_iff.mp finished with ⟨rest, whole⟩
      rcases exists_spells_of_read empty whole with ⟨consumed, _, spelled⟩
      exact spelled.isNormal
  · intro normal
    exact ⟨expr.spell, by rw [parse, completeness normal]⟩

/-- A choice below a list below a choice is normal, and no part of it is lost or merged. -/
theorem read_spell_choice_in_list :
    read .strict (choice [.leaf (.int 0), .node (.list (choice [.leaf (.name "a"),
        .node (.tree (leaf (.name "nil")) (leaf (.int 1)))]))]).spell =
      ⟨.ok (choice [.leaf (.int 0), .node (.list (choice [.leaf (.name "a"),
        .node (.tree (leaf (.name "nil")) (leaf (.int 1)))]))]), []⟩ :=
  (exists_parse_eq_ok_iff_isNormal .strict _).2 rfl

end TypeExpr
end TreeShapes
