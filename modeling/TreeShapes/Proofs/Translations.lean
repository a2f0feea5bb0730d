import TreeShapes.Reader

namespace TreeShapes

/-!
# Translations of readers

A translation carries the tokens, states and values of one reader to those of
another so that every step of the first becomes a step of the second.  It need
not be injective, neither on tokens nor on states.  A token is then accepted
exactly when its translation is, so both readings stop at the same position,
and what they report corresponds: `Translation.run_eq`.
-/

def Expected.map (onToken : Token -> Token) : Expected -> Expected
  | token only => .token (onToken only)
  | oneOf several => .oneOf (several.map onToken)
  | endOfInput => .endOfInput

def ParseError.map (onToken : Token -> Token) : ParseError -> ParseError
  | unexpectedEnd expected => .unexpectedEnd (expected.map (Expected.map onToken))
  | unexpectedToken actual expected =>
      .unexpectedToken (onToken actual) (expected.map (Expected.map onToken))

variable {σ τ α β : Type}

def Demand.map (onToken : Token -> Token) (onValue : α -> β) : Demand α -> Demand β
  | complete value => .complete (onValue value)
  | token expected => .token (expected.map (Expected.map onToken))

/-- Translate the value or the error of a reading, and the tokens that it left. -/
def Reading.map (onToken : Token -> Token) (onValue : α -> β) (reading : Reading α) :
    Reading β where
  result := (reading.result.map onValue).mapError (ParseError.map onToken)
  rest := reading.rest.map onToken

/-- Translating a reading and judging its leftover tokens are independent of each other. -/
theorem Reading.settle_map (onToken : Token -> Token) (onValue : α -> β) (trailing : Trailing)
    (reading : Reading α) :
    (reading.map onToken onValue).settle trailing =
      (reading.settle trailing).map onToken onValue := by
  rcases reading with ⟨result, rest⟩
  cases trailing with
  | ignore => rfl
  | reject =>
      cases result with
      | error error => rfl
      | ok value => cases rest <;> rfl

namespace Reader

/-- Functions on tokens, states and values under which the second reader does what the first
does. -/
structure Translation (source : Reader σ α) (target : Reader τ β) where
  onToken : Token -> Token
  onState : σ -> τ
  onValue : α -> β
  start_eq : target.start = onState source.start
  accept_eq : forall state token,
    target.accept (onState state) (onToken token) = (source.accept state token).map onState
  demand_eq : forall state,
    target.demand (onState state) = (source.demand state).map onToken onValue

namespace Translation

variable {source : Reader σ α} {target : Reader τ β}

theorem run_eq (translation : Translation source target) (state : σ) (tokens : List Token) :
    target.run (translation.onState state) (tokens.map translation.onToken) =
      (source.run state tokens).map translation.onToken translation.onValue := by
  induction tokens generalizing state with
  | nil =>
      have wanted := translation.demand_eq state
      simp only [List.map_nil, run, wanted]
      cases source.demand state <;> rfl
  | cons token tokens inductionHypothesis =>
      have step := translation.accept_eq state token
      have wanted := translation.demand_eq state
      simp only [List.map_cons, run, step, wanted]
      cases source.accept state token with
      | some next => exact inductionHypothesis next
      | none => cases source.demand state <;> rfl

theorem read_eq (translation : Translation source target) (tokens : List Token) :
    target.read (tokens.map translation.onToken) =
      (source.read tokens).map translation.onToken translation.onValue := by
  rw [read, translation.start_eq]
  exact translation.run_eq source.start tokens

end Translation
end Reader
end TreeShapes
