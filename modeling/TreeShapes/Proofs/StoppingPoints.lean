import TreeShapes.Reader

namespace TreeShapes
namespace Reader

/-!
# Where a reading stops

A reading walks through the tokens that its states accept and stops in front of
the first token that the state reached there refuses.  Everything a reading
reports is decided at that point: `exists_stop` finds it, and `stop` tells what
is reported there.  The three possible outcomes are then described one by one,
in both directions.

With every leftover token rejected, the outcome `.ok` means that the whole input
was accepted.  A reader is *live* if every state can still be completed.  For a
live reader the accepted lists begin exactly with the lists that it can walk
through, so that the token it stops at is the earliest one that spoils the
input.
-/

variable {σ α : Type} (reader : Reader σ α)

/-! ## One stopping point -/

/-- The state takes no token at the front of the rest.  Nothing is asked of an empty rest. -/
def Refuses (state : σ) (rest : List Token) : Prop :=
  forall token, rest.head? = some token -> reader.accept state token = none

/-- What is reported at a state that goes no further.  A complete state leaves the whole rest, an
incomplete one consumes the token that it fails on. -/
def stop (state : σ) (rest : List Token) : Reading α :=
  match reader.demand state, rest with
  | .complete value, rest => ⟨.ok value, rest⟩
  | .token expected, [] => ⟨.error (.unexpectedEnd expected), []⟩
  | .token expected, token :: rest => ⟨.error (.unexpectedToken token expected), rest⟩

theorem refuses_nil (state : σ) : reader.Refuses state [] := by
  intro token found
  cases found

theorem refuses_cons_iff {state : σ} {token : Token} {rest : List Token} :
    reader.Refuses state (token :: rest) <-> reader.accept state token = none := by
  simp [Refuses]

theorem advance?_append (state : σ) (tokens more : List Token) :
    reader.advance? state (tokens ++ more) =
      (reader.advance? state tokens).bind fun next => reader.advance? next more := by
  induction tokens generalizing state with
  | nil => rfl
  | cons token tokens inductionHypothesis =>
      simp only [List.cons_append, advance?]
      cases reader.accept state token with
      | none => rfl
      | some next => exact inductionHypothesis next

theorem advance?_append_of_eq {state middle : σ} {tokens : List Token}
    (reached : reader.advance? state tokens = some middle) (more : List Token) :
    reader.advance? state (tokens ++ more) = reader.advance? middle more := by
  rw [advance?_append, reached, Option.bind_some]

theorem advance?_concat_eq_some_iff {state last : σ} {tokens : List Token} {token : Token} :
    reader.advance? state (tokens ++ [token]) = some last <->
      exists middle, reader.advance? state tokens = some middle ∧
        reader.accept middle token = some last := by
  rw [advance?_append, Option.bind_eq_some_iff]
  simp only [advance?, Option.bind_fun_some]

/-- What holds at the beginning and is kept by every accepted token holds after every walk. -/
theorem advance?_invariant {Holds : List Token -> σ -> Prop}
    (step : forall {tokens state token next}, Holds tokens state ->
      reader.accept state token = some next -> Holds (tokens ++ [token]) next)
    {earlier tokens : List Token} {state last : σ} (begins : Holds earlier state)
    (reached : reader.advance? state tokens = some last) : Holds (earlier ++ tokens) last := by
  induction tokens generalizing earlier state with
  | nil =>
      cases reached
      rw [List.append_nil]
      exact begins
  | cons token tokens inductionHypothesis =>
      simp only [advance?, Option.bind_eq_some_iff] at reached
      rcases reached with ⟨next, accepted, reached⟩
      rw [List.append_cons]
      exact inductionHypothesis (step begins accepted) reached

theorem run_of_refuses {state : σ} {rest : List Token} (refused : reader.Refuses state rest) :
    reader.run state rest = reader.stop state rest := by
  cases rest with
  | nil => cases wanted : reader.demand state <;> simp only [run, stop, wanted]
  | cons token rest =>
      have unaccepted := reader.refuses_cons_iff.mp refused
      cases wanted : reader.demand state <;> simp only [run, stop, unaccepted, wanted]

/-- Every reading walks as far as its states accept, and reports what is due there. -/
theorem exists_stop (state : σ) (tokens : List Token) :
    exists consumed last rest, tokens = consumed ++ rest ∧
      reader.advance? state consumed = some last ∧ reader.Refuses last rest ∧
      reader.run state tokens = reader.stop last rest := by
  induction tokens generalizing state with
  | nil =>
      have refused := reader.refuses_nil state
      exact ⟨[], state, [], rfl, rfl, refused, reader.run_of_refuses refused⟩
  | cons token tokens inductionHypothesis =>
      cases accepted : reader.accept state token with
      | none =>
          have refused : reader.Refuses state (token :: tokens) :=
            reader.refuses_cons_iff.mpr accepted
          exact ⟨[], state, token :: tokens, rfl, rfl, refused, reader.run_of_refuses refused⟩
      | some next =>
          rcases inductionHypothesis next with ⟨consumed, last, rest, split, reached, refused, same⟩
          refine ⟨token :: consumed, last, rest, ?_, ?_, refused, ?_⟩
          · rw [split, List.cons_append]
          · rw [advance?, accepted, Option.bind_some, reached]
          · rw [← same, run, accepted]

theorem run_eq_stop {state last : σ} {consumed rest : List Token}
    (reached : reader.advance? state consumed = some last) (refused : reader.Refuses last rest) :
    reader.run state (consumed ++ rest) = reader.stop last rest := by
  rw [reader.run_append reached, reader.run_of_refuses refused]

/-! ## The three outcomes -/

theorem stop_eq_ok_iff {state : σ} {rest left : List Token} {value : α} :
    reader.stop state rest = ⟨.ok value, left⟩ <->
      reader.demand state = .complete value ∧ rest = left := by
  cases wanted : reader.demand state with
  | complete own => simp [stop, wanted]
  | token needed => cases rest <;> simp [stop, wanted]

theorem stop_eq_unexpectedToken_iff {state : σ} {rest left : List Token} {token : Token}
    {expected : Option Expected} :
    reader.stop state rest = ⟨.error (.unexpectedToken token expected), left⟩ <->
      reader.demand state = .token expected ∧ rest = token :: left := by
  cases wanted : reader.demand state with
  | complete own => simp [stop, wanted]
  | token needed => cases rest <;> simp [stop, wanted, and_assoc, and_left_comm]

theorem stop_eq_unexpectedEnd_iff {state : σ} {rest left : List Token}
    {expected : Option Expected} :
    reader.stop state rest = ⟨.error (.unexpectedEnd expected), left⟩ <->
      reader.demand state = .token expected ∧ rest = [] ∧ left = [] := by
  cases wanted : reader.demand state with
  | complete own => simp [stop, wanted]
  | token needed => cases rest <;> simp [stop, wanted, eq_comm]

/-- A value is read exactly where a complete state goes no further. -/
theorem run_eq_ok_iff {state : σ} {tokens rest : List Token} {value : α} :
    reader.run state tokens = ⟨.ok value, rest⟩ <->
      exists consumed last, tokens = consumed ++ rest ∧
        reader.advance? state consumed = some last ∧
        reader.demand last = .complete value ∧ reader.Refuses last rest := by
  constructor
  · intro finished
    rcases reader.exists_stop state tokens with ⟨consumed, last, left, split, reached, refused, same⟩
    rcases reader.stop_eq_ok_iff.mp (same.symm.trans finished) with ⟨complete, rfl⟩
    exact ⟨consumed, last, split, reached, complete, refused⟩
  · rintro ⟨consumed, last, rfl, reached, complete, refused⟩
    rw [reader.run_eq_stop reached refused]
    exact reader.stop_eq_ok_iff.mpr ⟨complete, rfl⟩

/-- A token is unexpected exactly where an incomplete state refuses it; it counts as consumed. -/
theorem run_eq_unexpectedToken_iff {state : σ} {tokens rest : List Token} {token : Token}
    {expected : Option Expected} :
    reader.run state tokens = ⟨.error (.unexpectedToken token expected), rest⟩ <->
      exists consumed last, tokens = consumed ++ token :: rest ∧
        reader.advance? state consumed = some last ∧
        reader.demand last = .token expected ∧ reader.accept last token = none := by
  constructor
  · intro failed
    rcases reader.exists_stop state tokens with ⟨consumed, last, left, split, reached, refused, same⟩
    rcases reader.stop_eq_unexpectedToken_iff.mp (same.symm.trans failed) with ⟨wanted, rfl⟩
    exact ⟨consumed, last, split, reached, wanted, reader.refuses_cons_iff.mp refused⟩
  · rintro ⟨consumed, last, rfl, reached, wanted, unaccepted⟩
    rw [reader.run_eq_stop reached (reader.refuses_cons_iff.mpr unaccepted)]
    exact reader.stop_eq_unexpectedToken_iff.mpr ⟨wanted, rfl⟩

/-- The end is unexpected exactly where the whole input leads to an incomplete state. -/
theorem run_eq_unexpectedEnd_iff {state : σ} {tokens rest : List Token}
    {expected : Option Expected} :
    reader.run state tokens = ⟨.error (.unexpectedEnd expected), rest⟩ <->
      rest = [] ∧ exists last, reader.advance? state tokens = some last ∧
        reader.demand last = .token expected := by
  constructor
  · intro failed
    rcases reader.exists_stop state tokens with ⟨consumed, last, left, split, reached, refused, same⟩
    rcases reader.stop_eq_unexpectedEnd_iff.mp (same.symm.trans failed) with ⟨wanted, rfl, rfl⟩
    rw [List.append_nil] at split
    exact ⟨rfl, last, split ▸ reached, wanted⟩
  · rintro ⟨rfl, last, reached, wanted⟩
    have stopped := reader.run_eq_stop reached (reader.refuses_nil last)
    rw [List.append_nil] at stopped
    rw [stopped]
    exact reader.stop_eq_unexpectedEnd_iff.mpr ⟨wanted, rfl, rfl⟩

/-- A state that still wants a token uses one up, be it accepted or not. -/
theorem rest_length_lt {state : σ} {expected : Option Expected}
    (wanted : reader.demand state = .token expected) {tokens : List Token}
    (nonempty : tokens ≠ []) : (reader.run state tokens).rest.length < tokens.length := by
  cases tokens with
  | nil => exact absurd rfl nonempty
  | cons token tokens =>
      apply Nat.lt_succ_of_le
      cases accepted : reader.accept state token with
      | none => simp only [run, accepted, wanted, Nat.le_refl]
      | some next =>
          have unread := reader.rest_suffix next tokens
          simpa only [run, accepted] using unread.length_le

end Reader

/-! ## The verdict on leftover tokens -/

namespace Reading

variable {α : Type} {reading : Reading α} {rest : List Token}

theorem result_eq_iff {result : Except ParseError α} :
    reading.result = result <-> exists rest, reading = ⟨result, rest⟩ := by
  constructor
  · rintro rfl
    exact ⟨reading.rest, rfl⟩
  · rintro ⟨rest, rfl⟩
    rfl

theorem settle_ignore (reading : Reading α) : reading.settle .ignore = reading := rfl

theorem settle_reject_eq_ok_iff {value : α} :
    reading.settle .reject = ⟨.ok value, rest⟩ <-> reading = ⟨.ok value, []⟩ ∧ rest = [] := by
  rcases reading with ⟨result, left⟩
  cases result with
  | error error => simp [settle]
  | ok own => cases left <;> simp [settle, eq_comm]

theorem settle_reject_eq_unexpectedToken_iff {token : Token} {expected : Option Expected} :
    reading.settle .reject = ⟨.error (.unexpectedToken token expected), rest⟩ <->
      reading = ⟨.error (.unexpectedToken token expected), rest⟩ ∨
      exists value after, reading = ⟨.ok value, token :: after⟩ ∧
        expected = some .endOfInput ∧ rest = token :: after := by
  rcases reading with ⟨result, left⟩
  cases result with
  | error error => simp [settle]
  | ok own =>
      cases left with
      | nil => simp [settle]
      | cons leftover later =>
          simp only [settle, mk.injEq, Except.error.injEq, ParseError.unexpectedToken.injEq,
            Except.ok.injEq, List.cons.injEq, reduceCtorEq, false_and, false_or]
          constructor
          · rintro ⟨⟨rfl, rfl⟩, rfl⟩
            exact ⟨own, later, ⟨rfl, rfl, rfl⟩, rfl, rfl⟩
          · rintro ⟨value, after, ⟨rfl, rfl, rfl⟩, rfl, rfl⟩
            exact ⟨⟨rfl, rfl⟩, rfl⟩

theorem settle_reject_eq_unexpectedEnd_iff {expected : Option Expected} :
    reading.settle .reject = ⟨.error (.unexpectedEnd expected), rest⟩ <->
      reading = ⟨.error (.unexpectedEnd expected), rest⟩ := by
  rcases reading with ⟨result, left⟩
  cases result with
  | error error => simp [settle]
  | ok own => cases left <;> simp [settle]

end Reading

/-- What an error at a state says was expected.  A complete value expects nothing but the end. -/
def Demand.expected? {α : Type} : Demand α -> Option Expected
  | complete _ => some .endOfInput
  | token expected => expected

namespace Reader

variable {σ α : Type} (reader : Reader σ α)

/-! ## Accepted lists and what begins them -/

/-- The whole list leads from the start to a complete state. -/
def Accepts (tokens : List Token) (value : α) : Prop :=
  exists last, reader.advance? reader.start tokens = some last ∧
    reader.demand last = .complete value

/-- The list begins an accepted one. -/
def Viable (tokens : List Token) : Prop :=
  exists accepted value, reader.Accepts accepted value ∧ tokens <+: accepted

/-- From every state some tokens lead to a complete one. -/
def Live : Prop :=
  forall state, exists completion last value,
    reader.advance? state completion = some last ∧ reader.demand last = .complete value

theorem settle_reject_read_eq_ok_iff {tokens rest : List Token} {value : α} :
    (reader.read tokens).settle .reject = ⟨.ok value, rest⟩ <->
      reader.Accepts tokens value ∧ rest = [] := by
  rw [Reading.settle_reject_eq_ok_iff, read, run_eq_ok_iff]
  constructor
  · rintro ⟨⟨consumed, last, split, reached, complete, _⟩, nothing⟩
    rw [List.append_nil] at split
    exact ⟨⟨last, split ▸ reached, complete⟩, nothing⟩
  · rintro ⟨⟨last, reached, complete⟩, nothing⟩
    exact ⟨⟨tokens, last, (List.append_nil tokens).symm, reached, complete,
      reader.refuses_nil last⟩, nothing⟩

theorem Viable.exists_advance? {reader : Reader σ α} {tokens : List Token}
    (viable : reader.Viable tokens) :
    exists last, reader.advance? reader.start tokens = some last := by
  rcases viable with ⟨accepted, value, ⟨last, reached, _⟩, completion, rfl⟩
  rw [advance?_append, Option.bind_eq_some_iff] at reached
  rcases reached with ⟨middle, reached, _⟩
  exact ⟨middle, reached⟩

/-- A live reader can be brought to an end behind everything it can walk through. -/
theorem Live.viable_of_advance? {reader : Reader σ α} (live : reader.Live) {tokens : List Token}
    {state : σ} (reached : reader.advance? reader.start tokens = some state) :
    reader.Viable tokens := by
  rcases live state with ⟨completion, last, value, finished, complete⟩
  refine ⟨tokens ++ completion, value, ⟨last, ?_, complete⟩, List.prefix_append _ _⟩
  rw [reader.advance?_append_of_eq reached, finished]

/-- Behind a viable list, the state reached by all but its last token accepts that token. -/
theorem Viable.exists_accept {reader : Reader σ α} {tokens : List Token} {token : Token}
    {state : σ} (viable : reader.Viable (tokens ++ [token]))
    (reached : reader.advance? reader.start tokens = some state) :
    exists next, reader.accept state token = some next := by
  rcases viable.exists_advance? with ⟨last, walked⟩
  rcases reader.advance?_concat_eq_some_iff.mp walked with ⟨middle, same, accepted⟩
  cases reached.symm.trans same
  exact ⟨last, accepted⟩

theorem not_viable_concat {tokens : List Token} {token : Token} {state : σ}
    (reached : reader.advance? reader.start tokens = some state)
    (refused : reader.accept state token = none) : ¬ reader.Viable (tokens ++ [token]) := by
  intro viable
  rcases viable.exists_accept reached with ⟨next, accepted⟩
  rw [refused] at accepted
  cases accepted

/-- What a live reader can go on with is what its state accepts. -/
theorem Live.viable_concat_iff {reader : Reader σ α} (live : reader.Live) {tokens : List Token}
    {token : Token} {state : σ} (reached : reader.advance? reader.start tokens = some state) :
    reader.Viable (tokens ++ [token]) <-> exists next, reader.accept state token = some next := by
  constructor
  · intro viable
    exact viable.exists_accept reached
  · rintro ⟨next, accepted⟩
    apply live.viable_of_advance?
    exact reader.advance?_concat_eq_some_iff.mpr ⟨state, reached, accepted⟩

/-- If complete states accept nothing, no accepted list continues another. -/
theorem eq_nil_of_accepts_append
    (closed : forall {state value}, reader.demand state = .complete value ->
      forall token, reader.accept state token = none)
    {tokens more : List Token} {value other : α} (accepted : reader.Accepts tokens value)
    (longer : reader.Accepts (tokens ++ more) other) : more = [] := by
  rcases accepted with ⟨last, reached, complete⟩
  rcases longer with ⟨final, walked, _⟩
  rw [reader.advance?_append_of_eq reached] at walked
  cases more with
  | nil => rfl
  | cons token more =>
      rw [advance?, closed complete token] at walked
      cases walked

/-! ## Earliest errors of live readers -/

/-- If every leftover token is rejected, an unexpected token is one that a reachable state refuses,
and what was expected is what that state asks for.  The token is left unread exactly when the input
should have ended in front of it. -/
theorem exists_state_of_unexpectedToken
    (silent : forall state, reader.demand state ≠ .token (some .endOfInput))
    {tokens rest : List Token} {actual : Token} {expected : Option Expected}
    (failed : (reader.read tokens).settle .reject =
      ⟨.error (.unexpectedToken actual expected), rest⟩) :
    exists consumed state after, tokens = consumed ++ actual :: after ∧
      reader.advance? reader.start consumed = some state ∧ reader.accept state actual = none ∧
      (reader.demand state).expected? = expected ∧
      rest = if expected = some .endOfInput then actual :: after else after := by
  rcases Reading.settle_reject_eq_unexpectedToken_iff.mp failed with early | late
  · rcases reader.run_eq_unexpectedToken_iff.mp early with
      ⟨consumed, last, split, reached, wanted, refused⟩
    have different : expected ≠ some .endOfInput := by
      rintro rfl
      exact silent last wanted
    refine ⟨consumed, last, rest, split, reached, refused, ?_, ?_⟩
    · rw [wanted, Demand.expected?]
    · rw [if_neg different]
  · rcases late with ⟨value, after, finished, atEnd, unread⟩
    rcases reader.run_eq_ok_iff.mp finished with
      ⟨consumed, last, split, reached, complete, refused⟩
    refine ⟨consumed, last, after, split, reached, reader.refuses_cons_iff.mp refused, ?_, ?_⟩
    · rw [complete, atEnd, Demand.expected?]
    · rw [if_pos atEnd, unread]

/-- The offending token is the first that no accepted list has at its position. -/
theorem Live.earliest_of_unexpectedToken {reader : Reader σ α} (live : reader.Live)
    (silent : forall state, reader.demand state ≠ .token (some .endOfInput))
    {tokens rest : List Token} {actual : Token} {expected : Option Expected}
    (failed : (reader.read tokens).settle .reject =
      ⟨.error (.unexpectedToken actual expected), rest⟩) :
    exists consumed after, tokens = consumed ++ actual :: after ∧
      reader.Viable consumed ∧ ¬ reader.Viable (consumed ++ [actual]) ∧
      rest = if expected = some .endOfInput then actual :: after else after := by
  rcases reader.exists_state_of_unexpectedToken silent failed with
    ⟨consumed, state, after, split, reached, refused, _, unread⟩
  exact ⟨consumed, after, split, live.viable_of_advance? reached,
    reader.not_viable_concat reached refused, unread⟩

/-- An input that ends too early is used up, is not accepted, and begins an accepted list. -/
theorem Live.earliest_of_unexpectedEnd {reader : Reader σ α} (live : reader.Live)
    {tokens rest : List Token} {expected : Option Expected}
    (failed : (reader.read tokens).settle .reject = ⟨.error (.unexpectedEnd expected), rest⟩) :
    rest = [] ∧ (forall value, ¬ reader.Accepts tokens value) ∧ reader.Viable tokens := by
  have ended := Reading.settle_reject_eq_unexpectedEnd_iff.mp failed
  rcases reader.run_eq_unexpectedEnd_iff.mp ended with ⟨nothing, last, reached, wanted⟩
  refine ⟨nothing, ?_, live.viable_of_advance? reached⟩
  rintro value ⟨final, walked, complete⟩
  cases reached.symm.trans walked
  rw [wanted] at complete
  cases complete

end Reader
end TreeShapes
