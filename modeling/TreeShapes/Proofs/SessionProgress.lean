import TreeShapes.Proofs.TypeGrammar
import TreeShapes.Session

namespace TreeShapes

/-!
# Sessions go on where they stopped

A session begins with the reading of its tokens.  It keeps the tokens that are
left and whether there were any to begin with, and nothing of what its readings
returned, so a session with tokens left is the fresh session over them, also
behind an error.  A reading uses up at least one token, since an expression
never begins complete.  A session therefore runs out of tokens after at most as
many readings as it had tokens.  From then on it reports the end: the literal
that stands for an empty input is read only where the input was empty from the
start.
-/

namespace TypeExpr

/-! ## One reading -/

theorem read_rest_suffix (config : Config) {tokens : List Token} (nonempty : tokens ≠ []) :
    (read config tokens).rest <:+ tokens := by
  rw [read_of_ne_nil config nonempty, Reading.rest_settle]
  exact (reader config).rest_suffix _ tokens

theorem read_rest_length_lt (config : Config) {tokens : List Token} (nonempty : tokens ≠ []) :
    (read config tokens).rest.length < tokens.length := by
  rw [read_of_ne_nil config nonempty, Reading.rest_settle]
  have wanted : (reader config).demand (reader config).start = .token none := rfl
  exact (reader config).rest_length_lt wanted nonempty

theorem readNext_nil (config : Config) :
    readNext config [] = ⟨.error (.unexpectedEnd none), []⟩ := by
  rw [readNext]
  cases config.trailing <;> rfl

end TypeExpr

namespace Session

open TypeExpr

/-! ## Many readings -/

/-- The session behind some readings, whatever they returned. -/
def after (count : Nat) (session : Session) : Session :=
  Nat.repeat (fun earlier => earlier.next.2) count session

theorem after_succ (count : Nat) (session : Session) :
    session.after (count + 1) = (session.after count).next.2 := rfl

theorem next_of_begun {session : Session} (begun : session.startedEmpty = false) :
    session.next =
      ((readNext session.config session.remaining).result,
        { session with
          remaining := (readNext session.config session.remaining).rest }) := by
  simp only [next, begun, Bool.false_eq_true, if_false]

theorem next_start (config : Config) (tokens : List Token) :
    (start config tokens).next =
      ((read config tokens).result,
        { start config tokens with remaining := (read config tokens).rest }) := by
  cases tokens <;> rfl

/-- The session belongs to a nonempty token list, of which it has a final part left. -/
structure Continues (config : Config) (tokens : List Token) (session : Session) : Prop where
  config_eq : session.config = config
  begun : session.startedEmpty = false
  suffix : session.remaining <:+ tokens

section Continuing

variable {config : Config} {tokens : List Token} {session : Session}

theorem continues_start (config : Config) (nonempty : tokens ≠ []) :
    Continues config tokens (start config tokens) where
  config_eq := rfl
  begun := List.isEmpty_eq_false_iff.mpr nonempty
  suffix := List.suffix_refl tokens

/-- A session with tokens left cannot be told from the one that begins with them. -/
theorem Continues.eq_start (continues : Continues config tokens session)
    (left : session.remaining ≠ []) : session = start config session.remaining := by
  rcases session with ⟨own, startedEmpty, remaining⟩
  have sameConfig : own = config := continues.config_eq
  have sameBegin : startedEmpty = false := continues.begun
  rw [sameConfig, sameBegin, start, List.isEmpty_eq_false_iff.mpr left]

theorem Continues.next_eq_read (continues : Continues config tokens session)
    (left : session.remaining ≠ []) :
    session.next =
      ((read config session.remaining).result,
        { session with remaining := (read config session.remaining).rest }) := by
  have first := next_start config session.remaining
  rw [← continues.eq_start left] at first
  exact first

theorem Continues.next_length_lt (continues : Continues config tokens session)
    (left : session.remaining ≠ []) :
    session.next.2.remaining.length < session.remaining.length := by
  rw [continues.next_eq_read left]
  exact read_rest_length_lt config left

theorem Continues.next_of_used_up (continues : Continues config tokens session)
    (nothing : session.remaining = []) :
    session.next = (.error (.unexpectedEnd none), session) := by
  rcases session with ⟨own, startedEmpty, remaining⟩
  have empty : remaining = [] := nothing
  subst empty
  rw [next_of_begun continues.begun, readNext_nil]

theorem Continues.next (continues : Continues config tokens session) :
    Continues config tokens session.next.2 := by
  by_cases nothing : session.remaining = []
  · rw [continues.next_of_used_up nothing]
    exact continues
  · have unread := read_rest_suffix config nothing
    rw [continues.next_eq_read nothing]
    exact ⟨continues.config_eq, continues.begun, unread.trans continues.suffix⟩

theorem Continues.after (continues : Continues config tokens session) (count : Nat) :
    Continues config tokens (session.after count) := by
  induction count with
  | zero => exact continues
  | succ count inductionHypothesis =>
      rw [after_succ]
      exact inductionHypothesis.next

theorem Continues.length_after_le (continues : Continues config tokens session) (count : Nat) :
    (session.after count).remaining.length ≤ session.remaining.length - count := by
  induction count with
  | zero => exact Nat.le_refl _
  | succ count inductionHypothesis =>
      have behind := continues.after count
      rw [after_succ]
      by_cases nothing : (session.after count).remaining = []
      · rw [behind.next_of_used_up nothing, nothing]
        exact Nat.zero_le _
      · have shorter := behind.next_length_lt nothing
        omega

end Continuing

theorem next_after_of_empty (config : Config) (count : Nat) :
    ((start config []).after count).next =
      (.ok (.leaf config.emptyInput), start config []) := by
  induction count with
  | zero => exact next_start config []
  | succ count inductionHypothesis =>
      rw [after_succ, inductionHypothesis]
      exact next_start config []

/-- After any number of readings, the next one depends on the tokens left and on nothing else.  As
long as there are some, it is the first reading of a fresh session over them and leaves fewer; when
there are none, it reports the end, which it does at the latest after as many readings as there were
tokens.  Over an empty input every reading gives the configured literal. -/
theorem next_after_eq_next_start (config : Config) (tokens : List Token) (count : Nat)
    {session : Session} (reached : (start config tokens).after count = session) :
    (tokens ≠ [] ->
      session.remaining <:+ tokens ∧
      (session.remaining ≠ [] ->
        session.next = (start config session.remaining).next ∧
        session.next.2.remaining.length < session.remaining.length) ∧
      (session.remaining = [] ->
        session.next.1 = .error (.unexpectedEnd none) ∧ session.next.2.remaining = []) ∧
      (tokens.length ≤ count -> session.remaining = [])) ∧
    (tokens = [] -> session.next.1 = .ok (.leaf config.emptyInput)) := by
  subst reached
  constructor
  · intro nonempty
    have begins := continues_start config nonempty
    have continues := begins.after count
    refine ⟨continues.suffix, ?_, ?_, ?_⟩
    · intro left
      have fresh := continues.eq_start left
      exact ⟨congrArg Session.next fresh, continues.next_length_lt left⟩
    · intro nothing
      rw [continues.next_of_used_up nothing]
      exact ⟨rfl, nothing⟩
    · intro enough
      have bound := begins.length_after_le count
      have none : tokens.length - count = 0 := Nat.sub_eq_zero_of_le enough
      apply List.eq_nil_of_length_eq_zero
      exact Nat.le_zero.mp (none ▸ bound)
  · intro empty
    subst empty
    rw [next_after_of_empty]

/-- Behind a leftover token that was rejected, the session goes on with that token, and takes it
this time. -/
theorem next_after_rejected_leftover :
    (start .strict [Token.name "a", Token.name "b", .punct .bar]).after 1 =
        ⟨.strict, false, [Token.name "b", .punct .bar]⟩ ∧
      (Session.mk .strict false [Token.name "b", .punct .bar]).next =
        (start .strict [Token.name "b", .punct .bar]).next ∧
      (Session.mk .strict false [Token.name "b", .punct .bar]).next.2.remaining.length < 2 :=
  ⟨rfl, ((next_after_eq_next_start .strict [Token.name "a", Token.name "b", .punct .bar] 1 rfl).1
    (List.cons_ne_nil _ _)).2.1 (List.cons_ne_nil _ _)⟩

end Session
end TreeShapes
