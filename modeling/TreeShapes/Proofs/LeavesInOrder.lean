import TreeShapes.Proofs.TypeGrammar
import TreeShapes.TypeExpr.Leaves

namespace TreeShapes
namespace TypeExpr

/-!
# The leaves of an expression are the literals of its tokens

Reading splices choices, unwraps groups, nests fixed lists and wraps suffixes,
but none of this moves a literal.  The leaves of the result, from left to right,
are found by one pass over the consumed tokens that remembers only the last two
of them.

The pass has to tell a suffix from an empty fixed list, as the reader does with
its place.  One bit of the memory is enough for that: whether the last token
can end an atom.  `Scans` says how a token list changes this bit and what it
accounts for.  It composes like a step of the pass, so that every derivation of
the grammar is scanned part by part: an atom takes the bit from false to true,
and so does a level of alternatives.
-/

/-! ## Leaves under the builders -/

theorem leavesOfMembers_append (first second : List Alternative) :
    leavesOfMembers (first ++ second) = leavesOfMembers first ++ leavesOfMembers second := by
  induction first with
  | nil => rfl
  | cons member members inductionHypothesis =>
      rw [List.cons_append, leavesOfMembers, leavesOfMembers, inductionHypothesis,
        List.append_assoc]

theorem leavesOfMembers_members (expr : TypeExpr) : leavesOfMembers expr.members = expr.leaves := by
  cases expr with
  | choice members => rw [members_choice, leaves]
  | list element =>
      rw [members, leavesOfMembers, leavesOfMember, leavesOfMembers, List.append_nil]
  | tree left right =>
      rw [members, leavesOfMembers, leavesOfMember, leavesOfMembers, List.append_nil]

theorem leaves_ofMembers (members : List Alternative) :
    (ofMembers members).leaves = leavesOfMembers members := by
  unfold ofMembers
  split
  · next expr => rw [leavesOfMembers, leavesOfMember, leavesOfMembers, List.append_nil]
  · rw [leaves]

theorem leaves_leaf (literal : Literal) : (leaf literal).leaves = [literal] := by
  rw [leaf, leaves, leavesOfMembers, leavesOfMember, leavesOfMembers, List.append_nil]

theorem leaves_fixedList (elements : List TypeExpr) (tail : TypeExpr) :
    (fixedList elements tail).leaves = elements.flatMap leaves ++ tail.leaves := by
  induction elements with
  | nil => rfl
  | cons element elements inductionHypothesis =>
      change (element.tree (fixedList elements tail)).leaves = _
      rw [leaves, inductionHypothesis, List.flatMap_cons, List.append_assoc]

/-! ## Scanning part by part -/

/-- Scanning the tokens accounts for the literals.  This holds wherever the token in front of them
ends an atom or not, as `begins` says; behind them `ends` says it of their last token. -/
def Scans (config : Config) (begins : Bool) (tokens : List Token) (literals : List Literal)
    (ends : Bool) : Prop :=
  forall earlier last : Option Token, last.any endsAtom = begins ->
    exists nextEarlier nextLast : Option Token, nextLast.any endsAtom = ends ∧
      forall rest, scanLeaves config earlier last (tokens ++ rest) =
        literals ++ scanLeaves config nextEarlier nextLast rest

section Parts

variable {config : Config} {begins middle ends : Bool}

theorem Scans.nil : Scans config begins [] [] begins := by
  intro earlier last same
  exact ⟨earlier, last, same, fun rest => rfl⟩

theorem Scans.append {tokens more : List Token} {literals others : List Literal}
    (first : Scans config begins tokens literals middle)
    (second : Scans config middle more others ends) :
    Scans config begins (tokens ++ more) (literals ++ others) ends := by
  intro earlier last same
  rcases first earlier last same with ⟨firstEarlier, firstLast, firstEnds, firstScan⟩
  rcases second firstEarlier firstLast firstEnds with ⟨nextEarlier, nextLast, nextEnds, nextScan⟩
  refine ⟨nextEarlier, nextLast, nextEnds, ?_⟩
  intro rest
  rw [List.append_assoc, firstScan, nextScan, List.append_assoc]

/-- A token that accounts for the same literals behind every memory that `begins` admits. -/
theorem scans_token {token : Token} {literals : List Literal}
    (accounted : forall earlier last : Option Token, last.any endsAtom = begins ->
      accountsFor config earlier last token = literals) :
    Scans config begins [token] literals (endsAtom token) := by
  intro earlier last same
  refine ⟨last, some token, rfl, ?_⟩
  intro rest
  rw [List.singleton_append, scanLeaves, accounted earlier last same]

theorem scans_literal (literal : Literal) :
    Scans config begins [.literal literal] [literal] true :=
  scans_token fun _ _ _ => rfl

/-- The marks other than the ellipsis and the right bracket account for nothing. -/
theorem scans_mark {mark : Punctuation} (quiet : mark ≠ .ellipsis ∧ mark ≠ .rbracket) :
    Scans config begins [.punct mark] [] mark.isClosing := by
  apply scans_token
  intro earlier last _
  cases mark with
  | ellipsis => exact absurd rfl quiet.1
  | rbracket => exact absurd rfl quiet.2
  | _ => rfl

theorem Scans.cons_mark {tokens : List Token} {literals : List Literal} (mark : Punctuation)
    (scanned : Scans config mark.isClosing tokens literals ends)
    (quiet : mark ≠ .ellipsis ∧ mark ≠ .rbracket) :
    Scans config begins (.punct mark :: tokens) literals ends :=
  (scans_mark quiet).append scanned

theorem Scans.concat_mark {tokens : List Token} {literals : List Literal} (mark : Punctuation)
    (scanned : Scans config begins tokens literals middle)
    (quiet : mark ≠ .ellipsis ∧ mark ≠ .rbracket) :
    Scans config begins (tokens ++ [.punct mark]) literals mark.isClosing := by
  have longer := scanned.append (scans_mark quiet)
  rw [List.append_nil] at longer
  exact longer

/-- Behind an atom a right bracket ends a fixed list. -/
theorem scans_rbracket :
    Scans config true [.punct .rbracket] [config.listTerminator] true := by
  apply scans_token
  intro earlier last atomEnd
  have notEllipsis : last ≠ some (.punct .ellipsis) := by
    rintro rfl
    cases atomEnd
  have notLbracket : last ≠ some (.punct .lbracket) := by
    rintro rfl
    cases atomEnd
  simp only [accountsFor, notEllipsis, notLbracket, false_and, if_false]

theorem scans_emptyList :
    Scans config false [.punct .lbracket, .punct .rbracket] [config.listTerminator] true := by
  intro earlier last noAtom
  refine ⟨some (.punct .lbracket), some (.punct .rbracket), rfl, ?_⟩
  intro rest
  simp [scanLeaves, accountsFor, noAtom]

theorem scans_suffix : Scans config true [.punct .lbracket, .punct .rbracket] [] true := by
  intro earlier last atomEnd
  refine ⟨some (.punct .lbracket), some (.punct .rbracket), rfl, ?_⟩
  intro rest
  simp [scanLeaves, accountsFor, atomEnd]

theorem scans_openEnd :
    Scans config begins [.punct .ellipsis, .punct .rbracket] [config.openTail] true := by
  intro earlier last _
  refine ⟨some (.punct .ellipsis), some (.punct .rbracket), rfl, ?_⟩
  intro rest
  simp [scanLeaves, accountsFor]

end Parts

/-! ## Derivations are scanned to their leaves -/

mutual

theorem SpellsAtom.scans {config : Config} :
    forall {tokens : List Token} {value : TypeExpr}, SpellsAtom config tokens value ->
      Scans config false tokens value.leaves true
  | _, _, .literal literal => by
      rw [leaves_leaf]
      exact scans_literal literal
  | _, _, .group inner => by
      have closed := inner.scans.concat_mark .rparen (by decide)
      rw [leaves_ofMembers]
      exact closed.cons_mark .lparen (by decide)
  | _, _, .tree left right => by
      have closed := right.scans.concat_mark .rangle (by decide)
      have children := left.scans.append (closed.cons_mark .dot (by decide))
      rw [leaves, leaves_ofMembers, leaves_ofMembers]
      exact children.cons_mark .langle (by decide)
  | _, _, .emptyList => by
      rw [leaves_leaf]
      exact scans_emptyList
  | _, _, .closedList earlier last => by
      have closed := (earlier.scans.append last.scans).append scans_rbracket
      rw [leaves_fixedList, List.flatMap_append, List.flatMap_singleton, leaves_ofMembers,
        leaves_leaf]
      exact closed.cons_mark .lbracket (by decide)
  | _, _, .openList earlier => by
      have closed := earlier.scans.append scans_openEnd
      rw [leaves_fixedList, leaves_leaf]
      exact closed.cons_mark .lbracket (by decide)
  | _, _, .listOf atom => by
      have suffixed := atom.scans.append scans_suffix
      rw [List.append_nil] at suffixed
      exact suffixed

theorem SpellsMembers.scans {config : Config} :
    forall {tokens : List Token} {members : List Alternative},
      SpellsMembers config tokens members ->
      Scans config false tokens (leavesOfMembers members) true
  | _, _, .single atom => by
      rw [leavesOfMembers_members]
      exact atom.scans
  | _, _, .bar earlier last => by
      rw [leavesOfMembers_append, leavesOfMembers_members]
      exact earlier.scans.append (last.scans.cons_mark .bar (by decide))

theorem SpellsElements.scans {config : Config} :
    forall {tokens : List Token} {elements : List TypeExpr},
      SpellsElements config tokens elements ->
      Scans config false tokens (elements.flatMap leaves) false
  | _, _, .none => .nil
  | _, _, .comma earlier last => by
      rw [List.flatMap_append, List.flatMap_singleton, leaves_ofMembers]
      exact (earlier.scans.append last.scans).concat_mark .comma (by decide)

end

/-- Reading loses, repeats and moves no literal: the leaves of the expression are what a scan of
the consumed tokens accounts for, with the configured literals where a fixed list ends. -/
theorem leaves_eq_scanLeaves {config : Config} {tokens rest : List Token} {expr : TypeExpr}
    (nonempty : tokens ≠ []) (finished : read config tokens = ⟨.ok expr, rest⟩) :
    exists consumed, tokens = consumed ++ rest ∧
      expr.leaves = scanLeaves config none none consumed := by
  rcases exists_spells_of_read nonempty finished with ⟨consumed, split, members, level, rfl⟩
  rcases level.scans none none rfl with ⟨earlier, last, _, scanned⟩
  have whole := scanned []
  rw [List.append_nil, scanLeaves, List.append_nil] at whole
  refine ⟨consumed, split, ?_⟩
  rw [leaves_ofMembers, whole]

/-- The first pair of brackets is a suffix and accounts for nothing, the second is an empty list,
and the third ends a list behind its ellipsis. -/
theorem leaves_suffix_emptyList_openList :
    exists consumed,
      [Token.name "a", .punct .lbracket, .punct .rbracket, .punct .bar, .punct .lbracket,
        .punct .rbracket, .punct .bar, .punct .lbracket, Token.int 7, .punct .comma,
        .punct .ellipsis, .punct .rbracket, .punct .rparen] = consumed ++ [.punct .rparen] ∧
      (choice [.node (.list (leaf (.name "a"))), .leaf (.name "nil"),
        .node (.tree (leaf (.int 7)) (leaf (.name "any")))]).leaves =
        scanLeaves .standard none none consumed :=
  leaves_eq_scanLeaves (List.cons_ne_nil _ _) rfl

end TypeExpr
end TreeShapes
