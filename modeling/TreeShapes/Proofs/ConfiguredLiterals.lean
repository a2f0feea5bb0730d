import TreeShapes.Proofs.OpaqueLiterals
import TreeShapes.Proofs.TypeGrammar

namespace TreeShapes

/-!
# Configured literals have no influence on what is accepted

A reading stores the literals of its configuration and never looks at them.
With all literals erased, the readers of any two configurations become one
machine, which reads shapes.  Both readings are carried to its reading of the
same tokens.  So they stop at the same token, fail with the same error, and
return expressions of the same shape.

The expressions themselves can differ only where the grammar uses a configured
literal.  It uses the list terminator to close a fixed list and the open tail
behind an ellipsis, and no other.  A derivation is therefore good for every
configuration with the same terminator, as long as the open tails agree or no
ellipsis occurs in it.
-/

/-! ## Erasing literals -/

/-- The literal that takes the place of every other in a shape. -/
def Literal.blank : Literal :=
  .name ""

def Config.blank : Config where
  emptyInput := .blank
  listTerminator := .blank
  openTail := .blank
  trailing := .ignore

theorem Expected.map_id (expected : Expected) : expected.map id = expected := by
  cases expected <;> simp [Expected.map]

theorem ParseError.map_id (error : ParseError) : error.map id = error := by
  have same : Expected.map id = id := funext Expected.map_id
  cases error <;> simp [ParseError.map, same]

/-- The readings leave the same tokens, and they fail with the same error or succeed with values
that the function does not tell apart. -/
def Reading.AlikeUpTo {α β : Type} (onValue : α -> β) (first second : Reading α) : Prop :=
  first.rest = second.rest ∧
  ((exists error, first.result = .error error ∧ second.result = .error error) ∨
    exists value other, first.result = .ok value ∧ second.result = .ok other ∧
      onValue value = onValue other)

theorem Reading.alikeUpTo_of_map_eq {α β : Type} {onValue : α -> β} {first second : Reading α}
    (same : first.map id onValue = second.map id onValue) : first.AlikeUpTo onValue second := by
  rcases first with ⟨result, rest⟩
  rcases second with ⟨otherResult, otherRest⟩
  have parts := Reading.mk.inj same
  constructor
  · simpa only [List.map_id] using parts.2
  · have results := parts.1
    cases result with
    | error error =>
        cases otherResult with
        | error otherError =>
            have errors := Except.error.inj results
            rw [ParseError.map_id, ParseError.map_id] at errors
            exact Or.inl ⟨error, rfl, congrArg Except.error errors.symm⟩
        | ok other => cases results
    | ok value =>
        cases otherResult with
        | error otherError => cases results
        | ok other => exact Or.inr ⟨value, other, rfl, rfl, Except.ok.inj results⟩

namespace TypeExpr

/-- The shape of an expression: every literal is erased. -/
def shape (expr : TypeExpr) : TypeExpr :=
  expr.rename fun _ => .blank

/-- The reader of shapes.  It sees of every literal only that it is one. -/
def shapeReader : Reader State TypeExpr where
  start := ⟨.atom, [], []⟩
  accept state token := accept .blank state (token.rename fun _ => .blank)
  demand := demand

/-- What a state asks for mentions no literal, so only a complete value is erased. -/
theorem demand_shape (state : State) :
    demand (state.rename fun _ => .blank) = (demand state).map id shape := by
  rw [demand_rename]
  rcases state with ⟨place, members, frames⟩
  cases place with
  | after atom =>
      cases frames with
      | nil => rfl
      | cons frame frames =>
          rcases frame with ⟨bracket, outer⟩
          cases bracket <;> rfl
  | _ => rfl

/-- Erasing what a state remembers carries every reader to the reader of shapes. -/
def shapeTranslation (config : Config) : Reader.Translation (reader config) shapeReader where
  onToken := id
  onState := State.rename fun _ => .blank
  onValue := shape
  start_eq := rfl
  accept_eq := accept_rename (fun _ => .blank) config
  demand_eq := demand_shape

/-- Of an erased reading the configuration decides nothing but the fate of leftover tokens. -/
theorem read_map_shape (config : Config) {tokens : List Token} (nonempty : tokens ≠ []) :
    (read config tokens).map id shape = (shapeReader.read tokens).settle config.trailing := by
  have carried := (shapeTranslation config).read_eq tokens
  change shapeReader.read (tokens.map id) = (readLongest config tokens).map id shape at carried
  rw [List.map_id] at carried
  rw [read_of_ne_nil config nonempty, ← Reading.settle_map, ← carried]

/-! ## Derivations that do without a configured literal -/

section Reconfigured

variable {first second : Config}

mutual

/-- A derivation uses the list terminator, and the open tail only for an ellipsis. -/
theorem SpellsAtom.reconfigure (terminators : first.listTerminator = second.listTerminator) :
    forall {tokens : List Token} {value : TypeExpr}, SpellsAtom first tokens value ->
      (Token.punct .ellipsis ∈ tokens -> first.openTail = second.openTail) ->
      SpellsAtom second tokens value
  | _, _, .literal literal, _ => .literal literal
  | _, _, .group inner, tails =>
      .group (inner.reconfigure terminators fun member => tails (by simp [member]))
  | _, _, .tree left right, tails =>
      .tree (left.reconfigure terminators fun member => tails (by simp [member]))
        (right.reconfigure terminators fun member => tails (by simp [member]))
  | _, _, .emptyList, _ => by
      rw [terminators]
      exact .emptyList
  | _, _, .closedList earlier last, tails => by
      rw [terminators]
      exact .closedList
        (earlier.reconfigure terminators fun member => tails (by simp [member]))
        (last.reconfigure terminators fun member => tails (by simp [member]))
  | _, _, .openList earlier, tails => by
      rw [tails (by simp)]
      exact .openList (earlier.reconfigure terminators fun member => tails (by simp [member]))
  | _, _, .listOf atom, tails =>
      .listOf (atom.reconfigure terminators fun member => tails (by simp [member]))

theorem SpellsMembers.reconfigure (terminators : first.listTerminator = second.listTerminator) :
    forall {tokens : List Token} {members : List Alternative}, SpellsMembers first tokens members ->
      (Token.punct .ellipsis ∈ tokens -> first.openTail = second.openTail) ->
      SpellsMembers second tokens members
  | _, _, .single atom, tails => .single (atom.reconfigure terminators tails)
  | _, _, .bar earlier last, tails =>
      .bar (earlier.reconfigure terminators fun member => tails (by simp [member]))
        (last.reconfigure terminators fun member => tails (by simp [member]))

theorem SpellsElements.reconfigure (terminators : first.listTerminator = second.listTerminator) :
    forall {tokens : List Token} {elements : List TypeExpr}, SpellsElements first tokens elements ->
      (Token.punct .ellipsis ∈ tokens -> first.openTail = second.openTail) ->
      SpellsElements second tokens elements
  | _, _, .none, _ => .none
  | _, _, .comma earlier last, tails =>
      .comma (earlier.reconfigure terminators fun member => tails (by simp [member]))
        (last.reconfigure terminators fun member => tails (by simp [member]))

end

theorem Spells.reconfigure {tokens : List Token} {expr : TypeExpr}
    (spelled : Spells first tokens expr)
    (terminators : first.listTerminator = second.listTerminator)
    (tails : Token.punct .ellipsis ∈ tokens -> first.openTail = second.openTail) :
    Spells second tokens expr := by
  rcases spelled with ⟨members, level, same⟩
  exact ⟨members, level.reconfigure terminators tails, same⟩

theorem Spells.eq_of_spells {config : Config} {tokens : List Token} {expr other : TypeExpr}
    (spelled : Spells config tokens expr) (otherSpelled : Spells config tokens other) :
    expr = other := by
  have same := spelled.read_eq.symm.trans otherSpelled.read_eq
  exact Except.ok.inj (Reading.mk.inj same).1

/-! ## Two configurations -/

variable {tokens : List Token}

theorem read_alikeUpTo_shape (policy : first.trailing = second.trailing) (nonempty : tokens ≠ []) :
    (read first tokens).AlikeUpTo shape (read second tokens) := by
  apply Reading.alikeUpTo_of_map_eq
  rw [read_map_shape first nonempty, read_map_shape second nonempty, policy]

/-- Two configurations read the same if they insert the same literals. -/
theorem read_eq_of_inserted (policy : first.trailing = second.trailing) (nonempty : tokens ≠ [])
    (terminators : first.listTerminator = second.listTerminator) {consumed : List Token}
    (split : tokens = consumed ++ (read first tokens).rest)
    (tails : Token.punct .ellipsis ∈ consumed -> first.openTail = second.openTail) :
    read first tokens = read second tokens := by
  have alike := read_alikeUpTo_shape policy nonempty
  rcases whole : read first tokens with ⟨result, rest⟩
  rcases otherWhole : read second tokens with ⟨otherResult, otherRest⟩
  rw [whole] at split alike
  rw [otherWhole] at alike
  rcases alike with ⟨sameRest, sameOutcome⟩
  obtain rfl : rest = otherRest := sameRest
  rcases sameOutcome with bothFail | bothSucceed
  · rcases bothFail with ⟨error, failed, otherFailed⟩
    obtain rfl : result = otherResult := failed.trans otherFailed.symm
    rfl
  · rcases bothSucceed with ⟨expr, other, finished, otherFinished, _⟩
    obtain rfl : result = .ok expr := finished
    obtain rfl : otherResult = .ok other := otherFinished
    rcases exists_spells_of_read nonempty whole with ⟨used, usedSplit, spelled⟩
    rcases exists_spells_of_read nonempty otherWhole with ⟨otherUsed, otherSplit, otherSpelled⟩
    obtain rfl : consumed = used := List.append_cancel_right (split.symm.trans usedSplit)
    obtain rfl : consumed = otherUsed := List.append_cancel_right (split.symm.trans otherSplit)
    rw [(spelled.reconfigure terminators tails).eq_of_spells otherSpelled]

end Reconfigured

/-- The configured literals have no influence on what is accepted.  Under one policy for leftover
tokens, two configurations leave the same tokens and fail with the same error or succeed with
expressions of the same shape.  The readings are equal if the configurations differ in the literal
for an empty input only, or if they agree on the list terminator and no ellipsis was consumed. -/
theorem read_independent_of_literals (first second : Config)
    (policy : first.trailing = second.trailing) {tokens : List Token} (nonempty : tokens ≠ []) :
    (read first tokens).AlikeUpTo shape (read second tokens) ∧
    (first.listTerminator = second.listTerminator -> first.openTail = second.openTail ->
      read first tokens = read second tokens) ∧
    (first.listTerminator = second.listTerminator ->
      forall consumed, tokens = consumed ++ (read first tokens).rest ->
        Token.punct .ellipsis ∉ consumed -> read first tokens = read second tokens) := by
  refine ⟨read_alikeUpTo_shape policy nonempty, ?_, ?_⟩
  · intro terminators tails
    have unread : (read first tokens).rest <:+ tokens := by
      rw [read_of_ne_nil first nonempty, Reading.rest_settle]
      exact (reader first).rest_suffix _ tokens
    rcases unread with ⟨consumed, split⟩
    exact read_eq_of_inserted policy nonempty terminators split.symm fun _ => tails
  · intro terminators consumed split absent
    apply read_eq_of_inserted policy nonempty terminators split
    intro present
    exact absurd present absent

/-- A list with an ellipsis keeps its shape and its leftover token whatever its tail is called, and
an ellipsis that is left unread has no influence at all. -/
theorem read_lists_with_another_tail :
    (read .standard [.punct .lbracket, Token.name "a", .punct .comma, .punct .ellipsis,
        .punct .rbracket, .punct .dot]).AlikeUpTo shape
      (read (Config.standard.withOpenTail (.int 7)) [.punct .lbracket, Token.name "a",
        .punct .comma, .punct .ellipsis, .punct .rbracket, .punct .dot]) ∧
    read .standard [.punct .lbracket, Token.name "a", .punct .rbracket, .punct .ellipsis] =
      read (Config.standard.withOpenTail (.int 7))
        [.punct .lbracket, Token.name "a", .punct .rbracket, .punct .ellipsis] := by
  have policy : Config.standard.trailing = (Config.standard.withOpenTail (.int 7)).trailing := rfl
  constructor
  · exact (read_independent_of_literals _ _ policy (List.cons_ne_nil _ _)).1
  · exact (read_independent_of_literals _ _ policy (List.cons_ne_nil _ _)).2.2 rfl
      [.punct .lbracket, Token.name "a", .punct .rbracket] rfl (by decide)

end TypeExpr
end TreeShapes
