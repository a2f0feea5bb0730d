import TreeShapes.Proofs.CursorWalks
import TreeShapes.Proofs.StoppingPoints

namespace TreeShapes

/-!
# Readers that ask a cursor

A reader that runs on a cursor does not see the token in front of it.  Each of
its states has a question for the cursor: marks that are tried in turn, and, if
none of them comes, a token to be taken or nothing more.  A question suits a
state if its reply leads the state where the next token would lead it.  A reader
whose questions suit all its states cannot tell the cursor from the token list.

Questions are put by operations of a walk, and none of them is a restore.  The
operations are kept, so that a reading can be followed as a walk.
-/

namespace Cursor

/-! ## Several operations -/

namespace Walk

def after (walk : Walk) (operations : List Operation) : Walk :=
  operations.foldl (fun earlier operation => (earlier.perform operation).2) walk

theorem after_append (walk : Walk) (operations more : List Operation) :
    walk.after (operations ++ more) = (walk.after operations).after more :=
  List.foldl_append

theorem finalCursor_eq_after (walk : Walk) (operations : List Operation) :
    walk.finalCursor operations = (walk.after operations).cursor := by
  induction operations generalizing walk with
  | nil => rfl
  | cons operation rest inductionHypothesis =>
      rw [finalCursor_cons, inductionHypothesis]
      rfl

theorem Reachable.after {tokens : List Token} {walk : Walk} (reached : Reachable tokens walk)
    (operations : List Operation) : Reachable tokens (walk.after operations) := by
  induction operations generalizing walk with
  | nil => exact reached
  | cons operation rest inductionHypothesis => exact inductionHypothesis (reached.perform operation)

end Walk

/-- What was learned from a cursor, by which operations, and the cursor behind them. -/
structure Consultation (β : Type) where
  outcome : β
  operations : List Operation
  cursor : Cursor

namespace Consultation

variable {β γ : Type} {cursor : Cursor} {consultation : Consultation β}

def precededBy (earlier : List Operation) (consultation : Consultation β) : Consultation β :=
  { consultation with operations := earlier ++ consultation.operations }

/-- The operations lead every walk from the given cursor to the last one, and never back. -/
structure Walks (cursor : Cursor) (consultation : Consultation β) : Prop where
  ahead : .restore ∉ consultation.operations
  leads : forall walk : Walk, walk.cursor = cursor ->
    walk.after consultation.operations = walk.move consultation.cursor

theorem walks_single {operation : Operation} {outcome : β} {later : Cursor}
    (ahead : operation ≠ .restore)
    (moves : forall walk : Walk, walk.cursor = cursor ->
      (walk.perform operation).2 = walk.move later) :
    Walks cursor (Consultation.mk outcome [operation] later) where
  ahead := fun member => ahead (List.mem_singleton.mp member).symm
  leads := moves

theorem Walks.withOutcome {outcome : γ} (walks : consultation.Walks cursor) :
    Walks cursor { consultation with outcome := outcome } :=
  ⟨walks.ahead, walks.leads⟩

theorem Walks.append {earlier : Consultation γ} (first : earlier.Walks cursor)
    (later : consultation.Walks earlier.cursor) :
    (consultation.precededBy earlier.operations).Walks cursor where
  ahead := fun member => (List.mem_append.mp member).elim first.ahead later.ahead
  leads := by
    intro walk here
    change walk.after (earlier.operations ++ consultation.operations) = _
    rw [Walk.after_append, first.leads walk here, later.leads _ rfl]
    rfl

theorem Walks.delivers (walks : consultation.Walks cursor) {walk : Walk}
    (here : walk.cursor = cursor) :
    walk.deliveries consultation.operations ++ consultation.cursor.remaining =
      cursor.remaining := by
  have delivered := (walk.run_delivers walks.ahead).1
  rw [Walk.finalCursor_eq_after, walks.leads walk here, here] at delivered
  exact delivered

theorem Walks.reachable (walks : consultation.Walks cursor) {tokens : List Token} {walk : Walk}
    (reached : Walk.Reachable tokens walk) (here : walk.cursor = cursor) :
    Walk.Reachable tokens (walk.move consultation.cursor) := by
  rw [← walks.leads walk here]
  exact reached.after _

/-- The result of a reading on a cursor, and the tokens in front of which it stopped. -/
def reading {α : Type} (consultation : Consultation (Except ParseError α)) : Reading α :=
  ⟨consultation.outcome, consultation.cursor.remaining⟩

end Consultation

/-! ## One question -/

/-- What a state asks of a cursor. -/
inductive Question (α : Type) where
  /-- Nothing: the value has been read completely. -/
  | nothing (value : α)
  | take
  | takeOneOf (marks : List Punctuation)
  /-- Try a mark, and ask something else if it does not come. -/
  | accept (mark : Punctuation) (otherwise : Question α)

/-- What becomes of a reading at one place. -/
inductive Outcome (σ α : Type) where
  | goOn (next : σ)
  | complete (value : α)
  | fail (error : ParseError)

namespace Outcome

variable {σ α : Type}

def ofTaken : Except ParseError Token -> Outcome Token α
  | .ok token => goOn token
  | .error error => fail error

/-- Use the token that a cursor delivered.  A token of no use is an error without expectation. -/
def follow (use : Token -> Option σ) : Outcome Token α -> Outcome σ α
  | goOn token =>
      match use token with
      | some next => goOn next
      | none => fail (.unexpectedToken token none)
  | complete value => complete value
  | fail error => fail error

theorem takenToken?_of_ofTaken_eq_goOn {result : Except ParseError Token} {token : Token}
    (delivered : (ofTaken result : Outcome Token α) = goOn token) :
    takenToken? result = some token := by
  cases result with
  | ok own =>
      cases delivered
      rfl
  | error error => cases delivered

theorem exists_of_follow_eq_goOn {use : Token -> Option σ} {outcome : Outcome Token α} {next : σ}
    (follows : outcome.follow use = goOn next) : exists token, outcome = goOn token := by
  cases outcome with
  | goOn token => exact ⟨token, rfl⟩
  | complete value => cases follows
  | fail error => cases follows

end Outcome

section Asking

variable {σ α : Type} {cursor : Cursor} {mark : Punctuation}

def ask (cursor : Cursor) : Question α -> Consultation (Outcome Token α)
  | .nothing value => ⟨.complete value, [], cursor⟩
  | .take =>
      let (result, later) := cursor.take
      ⟨.ofTaken result, [.take], later⟩
  | .takeOneOf marks =>
      let (result, later) := cursor.takeOneOf marks
      ⟨.ofTaken result, [.takeOneOf marks], later⟩
  | .accept mark otherwise =>
      match cursor.accept mark with
      | (true, later) => ⟨.goOn (.punct mark), [.accept mark], later⟩
      | (false, later) => (later.ask otherwise).precededBy [.accept mark]

theorem ask_accept_of_check (comes : cursor.check mark = true) (otherwise : Question α) :
    cursor.ask (.accept mark otherwise) =
      ⟨.goOn (.punct mark), [.accept mark], cursor.advance⟩ := by
  rw [ask, (accept_of_check comes).1]

theorem ask_accept_of_not_check (other : cursor.check mark = false) (otherwise : Question α) :
    cursor.ask (.accept mark otherwise) = (cursor.ask otherwise).precededBy [.accept mark] := by
  rw [ask, accept_of_not_check other]

theorem ne_punct_of_not_check {token : Token} (other : cursor.check mark = false)
    (ahead : cursor.peek? = some token) : token ≠ .punct mark := by
  rintro rfl
  rw [check, ahead, beq_self_eq_true] at other
  cases other

/-- Where a cursor stands behind an outcome.  Only a complete value leaves the next token. -/
def behind (cursor : Cursor) : Outcome σ α -> Cursor
  | .complete _ => cursor
  | .goOn _ => cursor.advance
  | .fail _ => cursor.advance

theorem advance_remaining (cursor : Cursor) :
    cursor.advance.remaining = cursor.remaining.tail := by
  rcases cursor with ⟨position, remaining⟩
  cases remaining <;> rfl

theorem behind_follow (cursor : Cursor) (use : Token -> Option σ) (outcome : Outcome Token α) :
    cursor.behind (outcome.follow use) = cursor.behind outcome := by
  cases outcome with
  | goOn token => cases used : use token <;> simp only [Outcome.follow, used, behind]
  | complete value => rfl
  | fail error => rfl

theorem behind_ofTaken (cursor : Cursor) (result : Except ParseError Token) :
    cursor.behind (.ofTaken result : Outcome Token α) = cursor.advance := by
  cases result <;> rfl

theorem ask_cursor (cursor : Cursor) (question : Question α) :
    (cursor.ask question).cursor = cursor.behind (cursor.ask question).outcome := by
  induction question with
  | nothing value => rfl
  | take => exact (take_delivers cursor).2.trans (behind_ofTaken cursor _).symm
  | takeOneOf marks =>
      exact (takeOneOf_delivers cursor marks).2.trans (behind_ofTaken cursor _).symm
  | accept mark otherwise inductionHypothesis =>
      cases comes : cursor.check mark with
      | true => rw [ask_accept_of_check comes, behind]
      | false =>
          rw [ask_accept_of_not_check comes]
          exact inductionHypothesis

theorem peek?_of_ask_eq_goOn {question : Question α} {token : Token}
    (delivered : (cursor.ask question).outcome = .goOn token) : cursor.peek? = some token := by
  induction question with
  | nothing value => cases delivered
  | take =>
      rw [← (take_delivers cursor).1]
      exact Outcome.takenToken?_of_ofTaken_eq_goOn delivered
  | takeOneOf marks =>
      rw [← (takeOneOf_delivers cursor marks).1]
      exact Outcome.takenToken?_of_ofTaken_eq_goOn delivered
  | accept mark otherwise inductionHypothesis =>
      cases comes : cursor.check mark with
      | true =>
          rw [ask_accept_of_check comes] at delivered
          cases delivered
          exact (accept_of_check comes).2
      | false =>
          rw [ask_accept_of_not_check comes] at delivered
          exact inductionHypothesis delivered

/-- A question that makes a reading go on leaves fewer tokens. -/
theorem ask_length_lt {question : Question α} {use : Token -> Option σ} {next : σ}
    (follows : (cursor.ask question).outcome.follow use = .goOn next) :
    (cursor.ask question).cursor.remaining.length < cursor.remaining.length := by
  rcases Outcome.exists_of_follow_eq_goOn follows with ⟨token, delivered⟩
  have split := peek?_append_advance_remaining cursor
  rw [peek?_of_ask_eq_goOn delivered] at split
  rw [ask_cursor, delivered, behind, ← split]
  exact Nat.lt_succ_self _

theorem ask_walks (cursor : Cursor) (question : Question α) :
    (cursor.ask question).Walks cursor := by
  induction question with
  | nothing value => exact ⟨List.not_mem_nil, fun walk here => here ▸ rfl⟩
  | take => exact Consultation.walks_single Operation.noConfusion fun walk here => here ▸ rfl
  | takeOneOf marks =>
      exact Consultation.walks_single Operation.noConfusion fun walk here => here ▸ rfl
  | accept mark otherwise inductionHypothesis =>
      have tried : Consultation.Walks cursor ⟨(), [.accept mark], (cursor.accept mark).2⟩ :=
        Consultation.walks_single Operation.noConfusion fun walk here => here ▸ rfl
      cases comes : cursor.check mark with
      | true =>
          rw [(accept_of_check comes).1] at tried
          rw [ask_accept_of_check comes]
          exact tried.withOutcome
      | false =>
          rw [accept_of_not_check comes] at tried
          rw [ask_accept_of_not_check comes]
          exact tried.append inductionHypothesis

end Asking
end Cursor

/-! ## Readers that ask -/

namespace Reader

open Cursor

variable {σ α : Type} (reader : Reader σ α)

/-- Read from the given state on a cursor, with a question at every state. -/
def runOn (asks : σ -> Question α) (state : σ) (cursor : Cursor) :
    Consultation (Except ParseError α) :=
  match _ : (cursor.ask (asks state)).outcome.follow (reader.accept state) with
  | .goOn next =>
      (runOn asks next (cursor.ask (asks state)).cursor).precededBy
        (cursor.ask (asks state)).operations
  | .complete value => { cursor.ask (asks state) with outcome := .ok value }
  | .fail error => { cursor.ask (asks state) with outcome := .error error }
termination_by cursor.remaining.length
decreasing_by exact ask_length_lt ‹_›

theorem runOn_walks (asks : σ -> Question α) (state : σ) (cursor : Cursor) :
    (reader.runOn asks state cursor).Walks cursor := by
  fun_induction reader.runOn asks state cursor with
  | case1 state cursor next follows inductionHypothesis =>
      exact (cursor.ask_walks (asks state)).append inductionHypothesis
  | case2 state cursor value follows => exact (cursor.ask_walks (asks state)).withOutcome
  | case3 state cursor error follows => exact (cursor.ask_walks (asks state)).withOutcome

/-- What a state makes of the next token, or of the end. -/
def meet (state : σ) (next : Option Token) : Outcome σ α :=
  match next.bind (reader.accept state), reader.demand state, next with
  | some later, _, _ => .goOn later
  | none, .complete value, _ => .complete value
  | none, .token expected, none => .fail (.unexpectedEnd expected)
  | none, .token expected, some token => .fail (.unexpectedToken token expected)

theorem run_eq_meet (state : σ) (tokens : List Token) :
    reader.run state tokens =
      match reader.meet state tokens.head? with
      | .goOn next => reader.run next tokens.tail
      | .complete value => ⟨.ok value, tokens⟩
      | .fail error => ⟨.error error, tokens.tail⟩ := by
  cases tokens with
  | nil => cases wanted : reader.demand state <;> simp [run, meet, wanted]
  | cons token rest =>
      cases accepted : reader.accept state token with
      | none => cases wanted : reader.demand state <;> simp [run, meet, accepted, wanted]
      | some next => simp [run, meet, accepted]

/-- The reply to the question leads the state where the next token leads it. -/
def SuitsAt (state : σ) (cursor : Cursor) (question : Question α) : Prop :=
  (cursor.ask question).outcome.follow (reader.accept state) = reader.meet state cursor.peek?

section OneState

variable {reader : Reader σ α} {state : σ} {cursor : Cursor}

theorem suitsAt_nothing {value : α} (complete : reader.demand state = .complete value)
    (refused : reader.Refuses state cursor.remaining) :
    reader.SuitsAt state cursor (.nothing value) := by
  have unused : cursor.peek?.bind (reader.accept state) = none :=
    Option.bind_eq_none_iff.mpr refused
  simp only [SuitsAt, ask, Outcome.follow, meet, unused, complete]

theorem suitsAt_take (wanted : reader.demand state = .token none) :
    reader.SuitsAt state cursor .take := by
  rw [SuitsAt, ask, Cursor.take]
  cases cursor.peek? with
  | none => simp only [Outcome.ofTaken, Outcome.follow, meet, Option.bind_none, wanted]
  | some token =>
      cases accepted : reader.accept state token <;>
        simp only [Outcome.ofTaken, Outcome.follow, meet, Option.bind_some, accepted, wanted]

theorem suitsAt_takeOneOf {expected : Expected} {marks : List Punctuation}
    (wanted : reader.demand state = .token (some expected)) (named : expected = .ofMarks marks)
    (listed : forall token, cursor.peek? = some token ->
      ((exists next, reader.accept state token = some next) <-> token ∈ expected.tokens)) :
    reader.SuitsAt state cursor (.takeOneOf marks) := by
  subst named
  rw [SuitsAt, ask, Cursor.takeOneOf]
  cases next : cursor.peek? with
  | none => simp only [Outcome.ofTaken, Outcome.follow, meet, Option.bind_none, wanted]
  | some token =>
      have found : (marks.any fun mark => token == .punct mark) = true <->
          exists later, reader.accept state token = some later := by
        rw [listed token next, Expected.tokens_ofMarks, List.any_eq_true, List.mem_map]
        simp only [beq_iff_eq, eq_comm (a := token)]
      cases accepted : reader.accept state token with
      | none =>
          rw [accepted] at found
          have unlisted : ¬ (marks.any fun mark => token == .punct mark) = true := by
            intro member
            rcases found.mp member with ⟨later, impossible⟩
            cases impossible
          simp only [if_neg unlisted, Outcome.ofTaken, Outcome.follow, meet, Option.bind_some,
            accepted, wanted]
      | some later =>
          simp only [if_pos (found.mpr ⟨later, accepted⟩), Outcome.ofTaken, Outcome.follow, meet,
            Option.bind_some, accepted]

theorem suitsAt_accept {mark : Punctuation} {otherwise : Question α} {next : σ}
    (accepted : reader.accept state (.punct mark) = some next)
    (suits : cursor.check mark = false -> reader.SuitsAt state cursor otherwise) :
    reader.SuitsAt state cursor (.accept mark otherwise) := by
  cases comes : cursor.check mark with
  | true =>
      have ahead := (accept_of_check comes).2
      simp only [SuitsAt, ask_accept_of_check comes, Outcome.follow, accepted, ahead, meet,
        Option.bind_some]
  | false =>
      rw [SuitsAt, ask_accept_of_not_check comes]
      exact suits comes

end OneState

/-- The questions suit every state, wherever the cursor stands. -/
def Suits (asks : σ -> Question α) : Prop :=
  forall (state : σ) (cursor : Cursor), reader.SuitsAt state cursor (asks state)

namespace Suits

variable {reader : Reader σ α} {asks : σ -> Question α}

/-- One question does for a reading what one token does. -/
theorem run_eq (suits : reader.Suits asks) (state : σ) (cursor : Cursor) :
    reader.run state cursor.remaining =
      match (cursor.ask (asks state)).outcome.follow (reader.accept state) with
      | .goOn next => reader.run next (cursor.ask (asks state)).cursor.remaining
      | .complete value => ⟨.ok value, (cursor.ask (asks state)).cursor.remaining⟩
      | .fail error => ⟨.error error, (cursor.ask (asks state)).cursor.remaining⟩ := by
  have leads := suits state cursor
  have place := cursor.ask_cursor (asks state)
  rw [← behind_follow cursor (reader.accept state), leads] at place
  rw [run_eq_meet, place, leads]
  change (match reader.meet state cursor.peek? with
    | .goOn next => _
    | .complete value => _
    | .fail error => _) = _
  cases reader.meet state cursor.peek? with
  | goOn next => rw [behind, advance_remaining]
  | complete value => rfl
  | fail error => rw [behind, advance_remaining]

theorem reading_runOn (suits : reader.Suits asks) (state : σ) (cursor : Cursor) :
    (reader.runOn asks state cursor).reading = reader.run state cursor.remaining := by
  fun_induction reader.runOn asks state cursor with
  | case1 state cursor next follows inductionHypothesis =>
      rw [suits.run_eq, follows]
      exact inductionHypothesis
  | case2 state cursor value follows =>
      rw [suits.run_eq, follows]
      rfl
  | case3 state cursor error follows =>
      rw [suits.run_eq, follows]
      rfl

end Suits
end Reader

/-! ## Behind a complete value -/

namespace Cursor.Consultation

variable {α : Type}

/-- The verdict on the tokens behind a complete value, for which the next of them is looked at. -/
def settle (trailing : Trailing) (consultation : Consultation (Except ParseError α)) :
    Consultation (Except ParseError α) :=
  match consultation.outcome with
  | .error _ => consultation
  | .ok value =>
      { consultation with
        outcome :=
          match trailing, consultation.cursor.peek? with
          | .reject, some leftover => .error (.unexpectedToken leftover (some .endOfInput))
          | _, _ => .ok value
        operations := consultation.operations ++ [.peek] }

theorem reading_settle (trailing : Trailing) (consultation : Consultation (Except ParseError α)) :
    (consultation.settle trailing).reading = consultation.reading.settle trailing := by
  rcases consultation with ⟨outcome, operations, ⟨position, remaining⟩⟩
  cases outcome with
  | error error => cases trailing <;> rfl
  | ok value => cases trailing <;> cases remaining <;> rfl

theorem Walks.settle {cursor : Cursor} {consultation : Consultation (Except ParseError α)}
    (walks : consultation.Walks cursor) (trailing : Trailing) :
    (consultation.settle trailing).Walks cursor := by
  rcases consultation with ⟨outcome, operations, later⟩
  cases outcome with
  | error error => exact walks
  | ok value =>
      have looked : Walks later (Consultation.mk () [.peek] later) :=
        walks_single Operation.noConfusion fun walk here => here ▸ rfl
      exact (walks.append looked).withOutcome

end Cursor.Consultation

end TreeShapes
