import TreeShapes.ParseError

namespace TreeShapes

/-!
# Readers

A reader takes tokens one at a time.  Its state either accepts the next token
and moves on, or does not, and then the *demand* of the state settles the
reading: a state that holds a complete value stops in front of the token, a
state that still wants a token fails on it.  The same demand answers for the
end of the input.  Because a state sees one token and nothing else, a reading
never depends on what follows the token that ended it.
-/

/-- What a state still asks for. -/
inductive Demand (α : Type) where
  /-- Nothing: the value has been read completely. -/
  | complete (value : α)
  /-- At least one more token, described if that can be done. -/
  | token (expected : Option Expected)

/-- A deterministic recogniser of token lists that builds a value. -/
structure Reader (σ α : Type) where
  /-- Where a reading begins. -/
  start : σ
  /-- The state after a token, for the tokens that the state can take. -/
  accept : σ -> Token -> Option σ
  /-- What is wanted of an input that brings no acceptable token. -/
  demand : σ -> Demand α

/-- The outcome of a reading, and the tokens that it left. -/
structure Reading (α : Type) where
  result : Except ParseError α
  rest : List Token

/-- The fate of tokens that follow a complete value. -/
inductive Trailing where
  /-- They stay unread. -/
  | ignore
  /-- The first of them is an error. -/
  | reject
deriving DecidableEq

/-- The verdict on the tokens that a successful reading left.  A rejected token stays unread. -/
def Reading.settle {α : Type} (trailing : Trailing) (reading : Reading α) : Reading α :=
  match trailing, reading.result, reading.rest with
  | .reject, .ok _, leftover :: _ =>
      { reading with result := .error (.unexpectedToken leftover (some .endOfInput)) }
  | _, _, _ => reading

namespace Reader

variable {σ α : Type}

/-- Read from the given state.  The token that a complete state cannot take is left; the token that
an incomplete state cannot take is consumed. -/
def run (reader : Reader σ α) : σ -> List Token -> Reading α
  | state, [] =>
      match reader.demand state with
      | .complete value => ⟨.ok value, []⟩
      | .token expected => ⟨.error (.unexpectedEnd expected), []⟩
  | state, token :: rest =>
      match reader.accept state token with
      | some next => run reader next rest
      | none =>
          match reader.demand state with
          | .complete value => ⟨.ok value, token :: rest⟩
          | .token expected => ⟨.error (.unexpectedToken token expected), rest⟩

def read (reader : Reader σ α) (tokens : List Token) : Reading α :=
  reader.run reader.start tokens

/-- The state reached by a list of tokens, all of which are accepted. -/
def advance? (reader : Reader σ α) : σ -> List Token -> Option σ
  | state, [] => some state
  | state, token :: rest => (reader.accept state token).bind fun next => advance? reader next rest

/-- Accepted tokens only move the state; reading goes on behind them. -/
theorem run_append (reader : Reader σ α) {state next : σ} {tokens : List Token}
    (reached : reader.advance? state tokens = some next) (rest : List Token) :
    reader.run state (tokens ++ rest) = reader.run next rest := by
  induction tokens generalizing state with
  | nil =>
      cases reached
      rfl
  | cons token tokens ih =>
      cases accepted : reader.accept state token with
      | none => simp [advance?, accepted] at reached
      | some middle =>
          simp only [advance?, accepted, Option.bind_some] at reached
          simp [run, accepted, ih reached]

/-- A reading leaves a final part of its tokens. -/
theorem rest_suffix (reader : Reader σ α) (state : σ) (tokens : List Token) :
    (reader.run state tokens).rest <:+ tokens := by
  induction tokens generalizing state with
  | nil =>
      unfold run
      split <;> exact List.suffix_refl _
  | cons token tokens ih =>
      unfold run
      split
      · next middle _ => exact (ih middle).trans (List.suffix_cons token tokens)
      · split
        · exact List.suffix_refl _
        · exact List.suffix_cons token tokens

end Reader

/-- The verdict on leftover tokens leaves them where they are. -/
@[simp] theorem Reading.rest_settle {α : Type} (trailing : Trailing) (reading : Reading α) :
    (reading.settle trailing).rest = reading.rest := by
  unfold Reading.settle
  split <;> rfl

end TreeShapes
