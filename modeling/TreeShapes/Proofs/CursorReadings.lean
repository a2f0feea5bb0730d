import TreeShapes.Proofs.CursorQuestions
import TreeShapes.Proofs.ExactExpectations
import TreeShapes.Proofs.ReliableExpectations
import TreeShapes.Proofs.SessionProgress

namespace TreeShapes

/-!
# Readings are walks of a cursor

Type expressions and tree literals are read by asking a cursor.  Where a token
begins something, any token is taken; behind a complete part the marks that can
extend it are tried first, and the marks that end the part around it are
demanded.  These are the tokens that the states accept, so nothing is read
differently.

A reading therefore consumes what its walk delivers, and a session is one cursor
that goes on from reading to reading.
-/

/-! ## Type expressions -/

namespace TypeExpr

open Cursor Reader

/-- The marks that can follow the alternatives inside a bracket. -/
def Bracket.marks : Bracket -> List Punctuation
  | group => [.rparen]
  | left => [.dot]
  | right _ => [.rangle]
  | items _ => [.comma, .rbracket]

theorem Bracket.expected_eq_ofMarks (bracket : Bracket) :
    bracket.expected = .ofMarks bracket.marks := by
  cases bracket <;> rfl

def question (state : State) : Question TypeExpr :=
  match state.place with
  | .atom => .take
  | .listStart => .accept .rbracket (.accept .ellipsis .take)
  | .element _ => .accept .ellipsis .take
  | .openEnd _ | .suffix _ => .takeOneOf [.rbracket]
  | .after atom =>
      .accept .lbracket (.accept .bar
        (match state.frames with
        | [] => .nothing (close state.members atom)
        | frame :: _ => .takeOneOf frame.bracket.marks))

theorem suits_question (config : Config) : (reader config).Suits question := by
  rintro ⟨place, members, frames⟩ cursor
  cases place with
  | atom => exact suitsAt_take rfl
  | listStart => exact suitsAt_accept rfl fun _ => suitsAt_accept rfl fun _ => suitsAt_take rfl
  | element done => exact suitsAt_accept rfl fun _ => suitsAt_take rfl
  | openEnd done =>
      apply suitsAt_takeOneOf rfl rfl
      intro token _
      simp [reader, accept_openEnd_eq_some_iff]
  | suffix atom =>
      apply suitsAt_takeOneOf rfl rfl
      intro token _
      simp [reader, accept_suffix_eq_some_iff]
  | after atom =>
      apply suitsAt_accept rfl
      intro noSuffix
      apply suitsAt_accept rfl
      intro noBar
      cases frames with
      | nil =>
          apply suitsAt_nothing rfl
          intro token ahead
          have notSuffix := ne_punct_of_not_check noSuffix ahead
          have notBar := ne_punct_of_not_check noBar ahead
          change followAtom config members [] atom token = none
          exact followAtom_nil_of_ne notSuffix notBar
      | cons frame outer =>
          apply suitsAt_takeOneOf rfl frame.bracket.expected_eq_ofMarks
          intro token ahead
          have notSuffix := ne_punct_of_not_check noSuffix ahead
          have notBar := ne_punct_of_not_check noBar ahead
          change (exists next, followAtom config members (frame :: outer) atom token =
            some next) <-> _
          rw [followAtom_cons_of_ne notSuffix notBar]
          exact exists_leaveBracket_iff

/-- Read one expression where the cursor stands.  The input is empty if the cursor has come to the
end without passing a token. -/
def readOn (config : Config) (cursor : Cursor) : Consultation (Except ParseError TypeExpr) :=
  if cursor.isAtEnd && cursor.position == 0 then
    ⟨.ok (leaf config.emptyInput), [.isAtEnd, .position], cursor⟩
  else
    (((reader config).runOn question (reader config).start cursor).settle
      config.trailing).precededBy [.isAtEnd, .position]

theorem readOn_walks (config : Config) (cursor : Cursor) :
    (readOn config cursor).Walks cursor := by
  have tested : Consultation.Walks cursor ⟨(), [.isAtEnd, .position], cursor⟩ :=
    ⟨by simp, fun walk here => here ▸ rfl⟩
  rw [readOn]
  split
  · exact tested.withOutcome
  · exact tested.append ((runOn_walks _ _ _ _).settle _)

theorem readOn_of_passed {config : Config} {cursor : Cursor}
    (begun : (cursor.isAtEnd && cursor.position == 0) = false) :
    (readOn config cursor).reading = readNext config cursor.remaining := by
  have longest := (suits_question config).reading_runOn (reader config).start cursor
  rw [readOn, if_neg (Bool.eq_false_iff.mp begun)]
  change (Consultation.settle _ _).reading = _
  rw [Consultation.reading_settle, longest]
  rfl

/-- On a fresh cursor the reading is the one of the token list. -/
theorem reading_readOn_start (config : Config) (tokens : List Token) :
    (readOn config (Cursor.start tokens)).reading = read config tokens := by
  cases tokens with
  | nil => rfl
  | cons token rest => exact readOn_of_passed rfl

/-- What a reading consumes is what its walk delivers. -/
theorem deliveries_append_rest (config : Config) (tokens : List Token) :
    (Walk.start tokens).deliveries (readOn config (Cursor.start tokens)).operations ++
      (read config tokens).rest = tokens := by
  rw [← reading_readOn_start]
  exact (readOn_walks config (Cursor.start tokens)).delivers rfl

end TypeExpr

/-! ## Tree literals -/

namespace BinaryTree

open Cursor Reader

def Bracket.marks : Bracket -> List Punctuation
  | left => [.dot]
  | right _ => [.rangle]
  | items _ => [.comma, .rbracket]

theorem Bracket.expected_eq_ofMarks (bracket : Bracket) :
    bracket.expected = .ofMarks bracket.marks := by
  cases bracket <;> rfl

def question (state : State) : Question BinaryTree :=
  match state.place with
  | .due => .take
  | .listStart => .accept .rbracket .take
  | .after tree =>
      match state.brackets with
      | [] => .nothing tree
      | bracket :: _ => .takeOneOf bracket.marks

theorem suits_question : reader.Suits question := by
  rintro ⟨place, brackets⟩ cursor
  cases place with
  | due => exact suitsAt_take rfl
  | listStart => exact suitsAt_accept rfl fun _ => suitsAt_take rfl
  | after tree =>
      cases brackets with
      | nil => exact suitsAt_nothing rfl fun token _ => rfl
      | cons bracket outer =>
          apply suitsAt_takeOneOf rfl bracket.expected_eq_ofMarks
          intro token _
          exact exists_leaveBracket_iff

/-- Read one tree where the cursor stands, and nothing else behind it. -/
def readOn (cursor : Cursor) : Consultation (Except ParseError BinaryTree) :=
  if cursor.isAtEnd then
    ⟨.ok .nil, [.isAtEnd], cursor⟩
  else
    ((reader.runOn question reader.start cursor).settle .reject).precededBy [.isAtEnd]

theorem readOn_walks (cursor : Cursor) : (readOn cursor).Walks cursor := by
  have tested : Consultation.Walks cursor ⟨(), [.isAtEnd], cursor⟩ :=
    Consultation.walks_single Operation.noConfusion fun walk here => here ▸ rfl
  rw [readOn]
  split
  · exact tested.withOutcome
  · exact tested.append ((runOn_walks _ _ _ _).settle _)

theorem reading_readOn_start (tokens : List Token) :
    (readOn (Cursor.start tokens)).reading = read tokens := by
  cases tokens with
  | nil => rfl
  | cons token rest =>
      have finished := suits_question.reading_runOn reader.start (Cursor.start (token :: rest))
      change (Consultation.settle _ _).reading = _
      rw [Consultation.reading_settle, finished]
      rfl

theorem deliveries_append_rest (tokens : List Token) :
    (Walk.start tokens).deliveries (readOn (Cursor.start tokens)).operations ++
      (read tokens).rest = tokens := by
  rw [← reading_readOn_start]
  exact (readOn_walks (Cursor.start tokens)).delivers rfl

end BinaryTree

/-! ## Sessions -/

/-- Only a cursor over no tokens is at the end without having passed one. -/
theorem Cursor.StandsIn.isAtEnd_and_position_eq_zero {tokens : List Token} {cursor : Cursor}
    (stands : cursor.StandsIn tokens) :
    (cursor.isAtEnd && cursor.position == 0) = tokens.isEmpty := by
  rw [Bool.eq_iff_iff, Bool.and_eq_true, isAtEnd_iff, stands.remaining_eq_nil_iff, beq_iff_eq,
    List.isEmpty_iff_length_eq_zero]
  have bound := stands.position_le
  omega

namespace Session

open Cursor TypeExpr

def cursorAfter (config : Config) (tokens : List Token) (count : Nat) : Cursor :=
  Nat.repeat (fun cursor => (readOn config cursor).cursor) count (Cursor.start tokens)

/-- The session has left what lies ahead of a cursor that walks over the same tokens. -/
structure RunsOn (config : Config) (tokens : List Token) (cursor : Cursor) (session : Session) :
    Prop where
  session_eq : session = ⟨config, tokens.isEmpty, cursor.remaining⟩
  reached : Walk.Reachable tokens ⟨cursor, []⟩

section Running

variable {config : Config} {tokens : List Token} {cursor : Cursor} {session : Session}

theorem runsOn_start (config : Config) (tokens : List Token) :
    RunsOn config tokens (Cursor.start tokens) (start config tokens) :=
  ⟨rfl, Walk.Reachable.start⟩

theorem RunsOn.standsIn (runs : RunsOn config tokens cursor session) : cursor.StandsIn tokens :=
  runs.reached.standsIn_of_mem cursor List.mem_cons_self

theorem RunsOn.next_eq (runs : RunsOn config tokens cursor session) :
    session.next =
      ((readOn config cursor).outcome,
        ⟨config, tokens.isEmpty, (readOn config cursor).cursor.remaining⟩) := by
  have empty := runs.standsIn.isAtEnd_and_position_eq_zero
  rw [runs.session_eq]
  cases started : tokens.isEmpty with
  | true =>
      rw [started] at empty
      rw [next, readOn, if_pos empty]
      rfl
  | false =>
      rw [started] at empty
      rw [next_of_begun rfl, ← readOn_of_passed empty]
      rfl

theorem RunsOn.next (runs : RunsOn config tokens cursor session) :
    RunsOn config tokens (readOn config cursor).cursor session.next.2 where
  session_eq := congrArg Prod.snd runs.next_eq
  reached := (readOn_walks config cursor).reachable runs.reached rfl

theorem runsOn_after (config : Config) (tokens : List Token) (count : Nat) :
    RunsOn config tokens (cursorAfter config tokens count) ((start config tokens).after count) := by
  induction count with
  | zero => exact runsOn_start config tokens
  | succ count inductionHypothesis => exact inductionHypothesis.next

end Running

/-- A session is one cursor that goes on from reading to reading: what is left lies behind the
tokens that the cursor has passed, and the next result is read where the cursor stands. -/
theorem next_after_eq_readOn (config : Config) (tokens : List Token) (count : Nat) :
    ((start config tokens).after count).remaining =
        tokens.drop (cursorAfter config tokens count).position ∧
      ((start config tokens).after count).next.1 =
        (readOn config (cursorAfter config tokens count)).outcome := by
  have runs := runsOn_after config tokens count
  constructor
  · rw [runs.session_eq]
    exact runs.standsIn.remaining_eq
  · rw [runs.next_eq]

end Session
end TreeShapes
