import TreeShapes.Cursor.Walk

namespace TreeShapes
namespace Cursor

/-!
# Cursors deliver every token once, in order

A cursor is used in three ways.  It is asked about the next token, it accepts a
mark if that comes next, and it takes whatever comes next, wanted or not.  One
account covers them all: an operation delivers a token or it does not, the
tokens delivered and those that remain are together the tokens that remained
before, and the position counts the tokens delivered.

Copies carry their places with them.  A walk that takes up a copy goes on from a
place where some cursor of the same walk has stood, in whatever order the copies
are taken up, so no walk leaves its tokens.
-/

/-- The cursor stands in the list: as many of the tokens as its position says lie before it, and the
others after it. -/
structure StandsIn (tokens : List Token) (cursor : Cursor) : Prop where
  position_le : cursor.position ≤ tokens.length
  remaining_eq : cursor.remaining = tokens.drop cursor.position

/-! ## One cursor -/

theorem standsIn_start (tokens : List Token) : (start tokens).StandsIn tokens where
  position_le := Nat.zero_le _
  remaining_eq := rfl

theorem peek?_eq_none_iff {cursor : Cursor} : cursor.peek? = none <-> cursor.remaining = [] :=
  List.head?_eq_none_iff

theorem isAtEnd_iff {cursor : Cursor} : cursor.isAtEnd = true <-> cursor.remaining = [] :=
  List.isEmpty_iff

theorem StandsIn.remaining_eq_nil_iff {tokens : List Token} {cursor : Cursor}
    (stands : cursor.StandsIn tokens) :
    cursor.remaining = [] <-> cursor.position = tokens.length := by
  rw [stands.remaining_eq, List.drop_eq_nil_iff]
  exact ⟨Nat.le_antisymm stands.position_le, fun atEnd => atEnd ▸ Nat.le_refl _⟩

/-- Moving on passes the next token, if there is one. -/
theorem peek?_append_advance_remaining (cursor : Cursor) :
    cursor.peek?.toList ++ cursor.advance.remaining = cursor.remaining := by
  rcases cursor with ⟨position, remaining⟩
  cases remaining <;> rfl

theorem advance_position (cursor : Cursor) :
    cursor.advance.position = cursor.position + cursor.peek?.toList.length := by
  rcases cursor with ⟨position, remaining⟩
  cases remaining <;> rfl

theorem advance_of_remaining_eq_nil {cursor : Cursor} (nothing : cursor.remaining = []) :
    cursor.advance = cursor := by
  unfold advance
  rw [nothing]

theorem StandsIn.advance {tokens : List Token} {cursor : Cursor}
    (stands : cursor.StandsIn tokens) : cursor.advance.StandsIn tokens := by
  rcases cursor with ⟨position, remaining⟩
  cases remaining with
  | nil => exact stands
  | cons token rest =>
      have split : token :: rest = tokens.drop position := stands.remaining_eq
      constructor
      · have longer := congrArg List.length split
        rw [List.length_cons, List.length_drop] at longer
        change position + 1 ≤ tokens.length
        omega
      · change rest = tokens.drop (position + 1)
        rw [← List.drop_drop, ← split]
        rfl

/-! ## Three ways of moving on -/

/-- The token that a take delivers, as its result or as the token that its error names. -/
def takenToken? : Except ParseError Token -> Option Token
  | .ok token => some token
  | .error error => error.actual?

theorem accept_of_check {cursor : Cursor} {mark : Punctuation} (comes : cursor.check mark = true) :
    cursor.accept mark = (true, cursor.advance) ∧ cursor.peek? = some (.punct mark) := by
  constructor
  · unfold accept
    rw [comes]
    rfl
  · exact eq_of_beq comes

theorem accept_of_not_check {cursor : Cursor} {mark : Punctuation}
    (other : cursor.check mark = false) : cursor.accept mark = (false, cursor) := by
  unfold accept
  rw [other]
  rfl

theorem take_delivers (cursor : Cursor) :
    takenToken? cursor.take.1 = cursor.peek? ∧ cursor.take.2 = cursor.advance := by
  rcases cursor with ⟨position, remaining⟩
  cases remaining <;> exact ⟨rfl, rfl⟩

/-- A take that wants certain marks delivers the next token all the same. -/
theorem takeOneOf_delivers (cursor : Cursor) (marks : List Punctuation) :
    takenToken? (cursor.takeOneOf marks).1 = cursor.peek? ∧
      (cursor.takeOneOf marks).2 = cursor.advance := by
  unfold takeOneOf
  cases next : cursor.peek? with
  | none =>
      have nothing := peek?_eq_none_iff.mp next
      exact ⟨rfl, (advance_of_remaining_eq_nil nothing).symm⟩
  | some token =>
      dsimp only
      split <;> exact ⟨rfl, rfl⟩

theorem takeOneOf_of_remaining_eq_nil {cursor : Cursor} (nothing : cursor.remaining = [])
    (marks : List Punctuation) :
    cursor.takeOneOf marks = (.error (.unexpectedEnd (some (.ofMarks marks))), cursor) := by
  unfold takeOneOf
  rw [peek?_eq_none_iff.mpr nothing]

/-! ## One operation of a walk -/

namespace Operation

/-- The operations that use up the next token, whatever it is. -/
def isTake : Operation -> Bool
  | take => true
  | takeMark _ => true
  | takeOneOf _ => true
  | _ => false

/-- The token that an operation delivers with its answer: the mark it accepted, or the token it
took. -/
def delivered? : Operation -> Answer -> Option Token
  | accept mark, .flag true => some (.punct mark)
  | _, .taken result => takenToken? result
  | _, _ => none

end Operation

namespace Walk

/-- An operation other than a restore stays and delivers nothing, or it delivers the next token and
moves past it. -/
theorem perform_cases (walk : Walk) {operation : Operation} (ahead : operation ≠ .restore) :
    ((walk.perform operation).2.cursor = walk.cursor ∧
      operation.delivered? (walk.perform operation).1 = none ∧ operation.isTake = false) ∨
    ((walk.perform operation).2.cursor = walk.cursor.advance ∧
      operation.delivered? (walk.perform operation).1 = walk.cursor.peek? ∧
      ((exists mark, operation = .accept mark ∧ (walk.perform operation).1 = .flag true) ∨
        operation.isTake = true)) := by
  cases operation with
  | peek | isAtEnd | remaining | position | check | save => exact Or.inl ⟨rfl, rfl, rfl⟩
  | restore => exact absurd rfl ahead
  | accept mark =>
      cases comes : walk.cursor.check mark with
      | false =>
          have performed : walk.perform (.accept mark) = (.flag false, walk) := by
            rw [perform, accept_of_not_check comes]
            rfl
          rw [performed]
          exact Or.inl ⟨rfl, rfl, rfl⟩
      | true =>
          have accepted := accept_of_check comes
          have performed :
              walk.perform (.accept mark) = (.flag true, walk.move walk.cursor.advance) := by
            rw [perform, accepted.1]
          rw [performed, accepted.2]
          exact Or.inr ⟨rfl, rfl, Or.inl ⟨mark, rfl, rfl⟩⟩
  | take =>
      have delivers := walk.cursor.take_delivers
      exact Or.inr ⟨delivers.2, delivers.1, Or.inr rfl⟩
  | takeMark mark =>
      have delivers := walk.cursor.takeOneOf_delivers [mark]
      exact Or.inr ⟨delivers.2, delivers.1, Or.inr rfl⟩
  | takeOneOf marks =>
      have delivers := walk.cursor.takeOneOf_delivers marks
      exact Or.inr ⟨delivers.2, delivers.1, Or.inr rfl⟩

theorem perform_delivers (walk : Walk) {operation : Operation} (ahead : operation ≠ .restore) :
    (operation.delivered? (walk.perform operation).1).toList ++
        (walk.perform operation).2.cursor.remaining = walk.cursor.remaining ∧
      (walk.perform operation).2.cursor.position = walk.cursor.position +
        (operation.delivered? (walk.perform operation).1).toList.length := by
  rcases walk.perform_cases ahead with ⟨stays, nothing, _⟩ | ⟨moves, delivers, _⟩
  · rw [stays, nothing]
    exact ⟨rfl, rfl⟩
  · rw [moves, delivers]
    exact ⟨peek?_append_advance_remaining _, advance_position _⟩

/-- An operation other than a restore delivers a token exactly if it accepts a mark, or takes where
there is something to take. -/
theorem delivered?_ne_none_iff (walk : Walk) {operation : Operation}
    (ahead : operation ≠ .restore) :
    operation.delivered? (walk.perform operation).1 ≠ none <->
      (exists mark, operation = .accept mark ∧ (walk.perform operation).1 = .flag true) ∨
        (operation.isTake = true ∧ walk.cursor.remaining ≠ []) := by
  constructor
  · intro delivered
    rcases walk.perform_cases ahead with ⟨_, nothing, _⟩ | ⟨_, delivers, kind⟩
    · exact absurd nothing delivered
    · rw [delivers] at delivered
      rcases kind with accepted | take
      · exact Or.inl accepted
      · exact Or.inr ⟨take, fun nothing => delivered (peek?_eq_none_iff.mpr nothing)⟩
  · rintro (⟨mark, accept, answer⟩ | ⟨take, something⟩)
    · rw [accept] at answer ⊢
      rw [answer]
      exact Option.some_ne_none _
    · rcases walk.perform_cases ahead with ⟨_, _, noTake⟩ | ⟨_, delivers, _⟩
      · rw [take] at noTake
        cases noTake
      · rw [delivers]
        exact fun nothing => something (peek?_eq_none_iff.mp nothing)

/-- A take at the end fails, and the walk stays as it is. -/
theorem perform_take_at_end {walk : Walk} {operation : Operation} (take : operation.isTake = true)
    (nothing : walk.cursor.remaining = []) :
    exists expected,
      walk.perform operation = (.taken (.error (.unexpectedEnd expected)), walk) := by
  have failed := takeOneOf_of_remaining_eq_nil nothing
  cases operation <;> cases take
  case take =>
    refine ⟨none, ?_⟩
    simp only [perform, Cursor.take, peek?_eq_none_iff.mpr nothing]
    rfl
  case takeMark mark =>
    refine ⟨some (.ofMarks [mark]), ?_⟩
    simp only [perform, Cursor.takeMark, failed]
    rfl
  case takeOneOf marks =>
    refine ⟨some (.ofMarks marks), ?_⟩
    simp only [perform, failed]
    rfl

/-- How an operation moves a walk.  It moves by one token if it accepts a mark or takes a token that
is there, wanted or not, and otherwise not at all; a take at the end fails and changes nothing. -/
structure MovesAtMostOne (walk : Walk) (operation : Operation) : Prop where
  stays_or_moves :
    (walk.perform operation).2.cursor.position = walk.cursor.position ∨
      (walk.perform operation).2.cursor.position = walk.cursor.position + 1
  moves_iff :
    (walk.perform operation).2.cursor.position = walk.cursor.position + 1 <->
      (exists mark, operation = .accept mark ∧ (walk.perform operation).1 = .flag true) ∨
        (operation.isTake = true ∧ walk.cursor.remaining ≠ [])
  take_at_end :
    operation.isTake = true -> walk.cursor.remaining = [] ->
      exists expected,
        walk.perform operation = (.taken (.error (.unexpectedEnd expected)), walk)

theorem movesAtMostOne (walk : Walk) {operation : Operation} (ahead : operation ≠ .restore) :
    walk.MovesAtMostOne operation := by
  have counted := (walk.perform_delivers ahead).2
  have delivers := walk.delivered?_ne_none_iff ahead
  refine ⟨?_, ?_, perform_take_at_end⟩
  · rw [counted]
    cases operation.delivered? (walk.perform operation).1 with
    | none => exact Or.inl rfl
    | some token => exact Or.inr rfl
  · rw [← delivers, counted]
    cases operation.delivered? (walk.perform operation).1 with
    | none => simp
    | some token => simp

/-! ## Every walk stays in its tokens -/

/-- The walks over a token list.  Copies are values: before one is taken up, those put aside may
change their order, be doubled or be dropped. -/
inductive Reachable (tokens : List Token) : Walk -> Prop where
  | start : Reachable tokens (Walk.start tokens)
  | perform {walk : Walk} (operation : Operation) (reached : Reachable tokens walk) :
      Reachable tokens (walk.perform operation).2
  | rearrange {walk : Walk} {copies : List Cursor} (reached : Reachable tokens walk)
      (known : copies ⊆ walk.saved) : Reachable tokens { walk with saved := copies }

def cursors (walk : Walk) : List Cursor :=
  walk.cursor :: walk.saved

theorem perform_saved_subset (walk : Walk) (operation : Operation) :
    (walk.perform operation).2.saved ⊆ walk.cursors := by
  cases operation with
  | save => exact List.Subset.refl _
  | restore =>
      rcases walk with ⟨cursor, saved⟩
      cases saved with
      | nil => exact List.nil_subset _
      | cons last others =>
          intro copy member
          exact List.mem_cons_of_mem _ (List.mem_cons_of_mem _ member)
  | _ => exact List.subset_cons_self _ _

/-- An operation leads to a cursor of the walk, or moves its cursor on. -/
theorem perform_cursor_mem (walk : Walk) (operation : Operation) :
    (walk.perform operation).2.cursor ∈ walk.cursors ∨
      (walk.perform operation).2.cursor = walk.cursor.advance := by
  by_cases back : operation = .restore
  · subst back
    rcases walk with ⟨cursor, saved⟩
    cases saved with
    | nil => exact Or.inl List.mem_cons_self
    | cons last others => exact Or.inl (List.mem_cons_of_mem _ List.mem_cons_self)
  · rcases walk.perform_cases back with ⟨stays, _⟩ | ⟨moves, _⟩
    · rw [stays]
      exact Or.inl List.mem_cons_self
    · exact Or.inr moves

theorem Reachable.standsIn_of_mem {tokens : List Token} {walk : Walk}
    (reached : Reachable tokens walk) :
    forall cursor, cursor ∈ walk.cursors -> cursor.StandsIn tokens := by
  induction reached with
  | start =>
      intro cursor member
      rw [List.mem_singleton.mp member]
      exact standsIn_start tokens
  | perform operation reached inductionHypothesis =>
      intro cursor member
      rcases List.mem_cons.mp member with current | copy
      · rw [current]
        rcases perform_cursor_mem _ operation with known | moved
        · exact inductionHypothesis _ known
        · rw [moved]
          exact (inductionHypothesis _ List.mem_cons_self).advance
      · exact inductionHypothesis cursor (perform_saved_subset _ operation copy)
  | rearrange reached known inductionHypothesis =>
      intro cursor member
      rcases List.mem_cons.mp member with current | copy
      · exact inductionHypothesis cursor (List.mem_cons.mpr (Or.inl current))
      · exact inductionHypothesis cursor (List.mem_cons_of_mem _ (known copy))

/-- Whatever a run does, it reports cursors that stand in the tokens. -/
theorem Reachable.standsIn_of_mem_run {tokens : List Token} {walk : Walk}
    {operations : List Operation} {entry : Answer × Cursor} (reached : Reachable tokens walk)
    (member : entry ∈ walk.run operations) : entry.2.StandsIn tokens := by
  induction operations generalizing walk with
  | nil => cases member
  | cons operation rest inductionHypothesis =>
      have behind := reached.perform operation
      rcases List.mem_cons.mp member with now | later
      · rw [now]
        exact behind.standsIn_of_mem _ List.mem_cons_self
      · exact inductionHypothesis behind later

/-! ## Walks that never turn back -/

def finalCursor (walk : Walk) (operations : List Operation) : Cursor :=
  ((walk.run operations).map Prod.snd).getLastD walk.cursor

/-- The tokens that a run delivers, in order. -/
def deliveries (walk : Walk) (operations : List Operation) : List Token :=
  (operations.zip (walk.run operations)).flatMap fun step => (step.1.delivered? step.2.1).toList

theorem finalCursor_cons (walk : Walk) (operation : Operation) (rest : List Operation) :
    walk.finalCursor (operation :: rest) = (walk.perform operation).2.finalCursor rest := by
  unfold finalCursor
  rw [run, List.map_cons, List.getLastD_cons]

theorem deliveries_cons (walk : Walk) (operation : Operation) (rest : List Operation) :
    walk.deliveries (operation :: rest) =
      (operation.delivered? (walk.perform operation).1).toList ++
        (walk.perform operation).2.deliveries rest := by
  unfold deliveries
  rw [run, List.zip_cons_cons, List.flatMap_cons]

/-- A run without restores delivers what it moves past. -/
theorem run_delivers (walk : Walk) {operations : List Operation}
    (ahead : .restore ∉ operations) :
    walk.deliveries operations ++ (walk.finalCursor operations).remaining =
        walk.cursor.remaining ∧
      (walk.finalCursor operations).position =
        walk.cursor.position + (walk.deliveries operations).length := by
  induction operations generalizing walk with
  | nil => exact ⟨rfl, rfl⟩
  | cons operation rest inductionHypothesis =>
      have first := walk.perform_delivers (List.ne_of_not_mem_cons ahead).symm
      have others :=
        inductionHypothesis (walk.perform operation).2 (List.not_mem_of_not_mem_cons ahead)
      rw [deliveries_cons, finalCursor_cons]
      constructor
      · rw [List.append_assoc, others.1, first.1]
      · rw [others.2, first.2, List.length_append, Nat.add_assoc]

theorem deliveries_eq_take (tokens : List Token) {operations : List Operation}
    (ahead : .restore ∉ operations) :
    (Walk.start tokens).deliveries operations =
      tokens.take ((Walk.start tokens).finalCursor operations).position := by
  have delivers := (Walk.start tokens).run_delivers ahead
  have whole : (Walk.start tokens).deliveries operations ++
      ((Walk.start tokens).finalCursor operations).remaining = tokens := delivers.1
  have counted : ((Walk.start tokens).finalCursor operations).position =
      ((Walk.start tokens).deliveries operations).length :=
    delivers.2.trans (Nat.zero_add _)
  calc
    (Walk.start tokens).deliveries operations =
        ((Walk.start tokens).deliveries operations ++
          ((Walk.start tokens).finalCursor operations).remaining).take
            ((Walk.start tokens).deliveries operations).length := List.take_left.symm
    _ = tokens.take ((Walk.start tokens).finalCursor operations).position := by
        rw [whole, counted]

end Walk

/-- In every walk over a token list, copies taken up or not, the cursor stands in the list and
notices its end.  Every operation other than a restore moves it by the token that it delivers, if it
delivers one, and a take at the end changes nothing.  A run without restores delivers, in order, the
tokens in front of the place where it stops. -/
theorem walk_delivers_each_token_once (tokens : List Token) :
    (forall walk, Walk.Reachable tokens walk ->
      walk.cursor.StandsIn tokens ∧
      (walk.cursor.isAtEnd = true <-> walk.cursor.position = tokens.length) ∧
      (walk.cursor.isAtEnd = true <-> walk.cursor.peek? = none) ∧
      (walk.cursor.peek? = none <-> walk.cursor.remaining = []) ∧
      forall operation, operation ≠ .restore -> walk.MovesAtMostOne operation) ∧
    (forall operations entry, entry ∈ (Walk.start tokens).run operations ->
      entry.2.StandsIn tokens) ∧
    (forall operations, .restore ∉ operations ->
      (Walk.start tokens).deliveries operations =
        tokens.take ((Walk.start tokens).finalCursor operations).position) := by
  refine ⟨?_, ?_, ?_⟩
  · intro walk reached
    have stands := reached.standsIn_of_mem _ List.mem_cons_self
    refine ⟨stands, isAtEnd_iff.trans stands.remaining_eq_nil_iff,
      isAtEnd_iff.trans peek?_eq_none_iff.symm, peek?_eq_none_iff, ?_⟩
    intro operation ahead
    exact walk.movesAtMostOne ahead
  · intro operations entry member
    exact Walk.Reachable.start.standsIn_of_mem_run member
  · intro operations ahead
    exact Walk.deliveries_eq_take tokens ahead

/-- The older of two copies may be taken up first, and then a token that is not the wanted one is
passed like any other. -/
theorem walk_from_older_copy_delivers_each_token_once :
    let tokens := [Token.name "a", .punct .bar, Token.int 7]
    let older : Cursor := ⟨0, tokens⟩
    let newer : Cursor := ⟨1, [.punct .bar, Token.int 7]⟩
    let operations : List Operation :=
      [.accept .bar, .takeMark .dot, .save, .accept .bar, .peek, .take]
    Walk.Reachable tokens ⟨older, [newer]⟩ ∧
      older.StandsIn tokens ∧
      Walk.MovesAtMostOne ⟨older, [newer]⟩ (.takeMark .dot) ∧
      .restore ∉ operations ∧
      (Walk.start tokens).deliveries operations = tokens.take 3 := by
  intro tokens older newer operations
  have bothSaved : Walk.Reachable tokens ⟨newer, [newer, older]⟩ :=
    ((Walk.Reachable.start.perform .save).perform .take).perform .save
  have swapped : Walk.Reachable tokens ⟨newer, [older, newer]⟩ :=
    bothSaved.rearrange (by decide)
  have restored : Walk.Reachable tokens ⟨older, [newer]⟩ := swapped.perform .restore
  have ahead : .restore ∉ operations := by decide
  have law := walk_delivers_each_token_once tokens
  have here := law.1 _ restored
  exact ⟨restored, here.1, here.2.2.2.2 (.takeMark .dot) (by decide), ahead,
    law.2.2 operations ahead⟩

end Cursor
end TreeShapes
