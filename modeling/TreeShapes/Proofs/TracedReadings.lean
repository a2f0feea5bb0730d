import TreeShapes.Proofs.LeftoverTokens
import TreeShapes.Trace

namespace TreeShapes
namespace Trace

/-!
# Traces tell what was left out

A trace is computed beside the reading that it describes.  Here both are
produced at once, by a reading that reports as it goes: it opens with the
replacement of an empty input, which is then read like any other, and it closes
with the verdict on leftover tokens.  `reportingRead_eq` says that the two views
agree.  So the literal read for an empty input reports nothing more, and nothing
is reported ahead of a failure.

Leftover tokens are reported exactly where the two policies disagree, and the
report names the token that the other policy rejects.
-/

open TypeExpr (parse read readLongest)

/-! ## Reporting on the way -/

/-- A reading, and what was reported on the way. -/
structure Report where
  reading : Reading TypeExpr
  events : List Entry

/-- The verdict on the tokens that a reading left, reported where they are ignored. -/
def finish (trailing : Trailing) (reading : Reading TypeExpr) : Report :=
  match trailing, reading with
  | .ignore, ⟨.ok expr, next :: rest⟩ =>
      ⟨⟨.ok expr, next :: rest⟩, [.ignored (rest.length + 1) next]⟩
  | .reject, ⟨.ok _, next :: rest⟩ =>
      ⟨⟨.error (.unexpectedToken next (some .endOfInput)), next :: rest⟩, []⟩
  | _, reading => ⟨reading, []⟩

/-- Read one expression and report what is replaced and what is ignored.  The literal that stands
for an empty input is read and finished like every other input. -/
def reportingRead (config : Config) (tokens : List Token) : Report :=
  match tokens with
  | [] =>
      let fallback :=
        finish config.trailing (readLongest config [.literal config.emptyInput])
      ⟨fallback.reading, .emptyInput config.emptyInput :: fallback.events⟩
  | _ => finish config.trailing (readLongest config tokens)

theorem finish_reading (trailing : Trailing) (reading : Reading TypeExpr) :
    (finish trailing reading).reading = reading.settle trailing := by
  rcases reading with ⟨result, rest⟩
  cases trailing <;> cases result <;> cases rest <;> rfl

/-- The verdict says something about ignored tokens only, and there it says one thing. -/
theorem mem_finish_events_iff {trailing : Trailing} {reading : Reading TypeExpr} {event : Entry} :
    event ∈ (finish trailing reading).events <->
      trailing = .ignore ∧ exists expr next rest, reading = ⟨.ok expr, next :: rest⟩ ∧
        event = .ignored (rest.length + 1) next := by
  constructor
  · intro told
    unfold finish at told
    split at told
    · next expr next rest =>
        exact ⟨rfl, expr, next, rest, rfl, List.mem_singleton.mp told⟩
    · cases told
    · cases told
  · rintro ⟨rfl, expr, next, rest, rfl, rfl⟩
    exact List.mem_singleton_self _

theorem finish_events_length_le (trailing : Trailing) (reading : Reading TypeExpr) :
    (finish trailing reading).events.length ≤ 1 := by
  unfold finish
  split <;> simp

theorem events_cons (config : Config) (token : Token) (tokens : List Token) :
    events config (token :: tokens) =
      (finish config.trailing (readLongest config (token :: tokens))).events := by
  unfold finish events
  rcases readLongest config (token :: tokens) with ⟨result, rest⟩
  cases config.trailing <;> cases result <;> cases rest <;> rfl

/-- A trace is what a reading reports on the way. -/
theorem reportingRead_eq (config : Config) (tokens : List Token) :
    reportingRead config tokens = ⟨read config tokens, events config tokens⟩ := by
  cases tokens with
  | nil =>
      have fallback : readLongest config [.literal config.emptyInput] =
          ⟨.ok (.leaf config.emptyInput), []⟩ := rfl
      simp only [reportingRead, fallback]
      cases config.trailing <;> rfl
  | cons token tokens =>
      rw [events_cons, TypeExpr.read_of_ne_nil config (List.cons_ne_nil token tokens),
        ← finish_reading]
      rfl

/-! ## What an event tells -/

variable {config : Config} {tokens : List Token} {event : Entry}

theorem events_length_le (config : Config) (tokens : List Token) :
    (events config tokens).length ≤ 1 := by
  cases tokens with
  | nil => exact Nat.le_refl 1
  | cons token tokens =>
      rw [events_cons]
      exact finish_events_length_le _ _

/-- An event tells either that the input was empty, or how many tokens a successful permissive
reading left and which of them came first. -/
theorem mem_events_iff :
    event ∈ events config tokens <->
      (tokens = [] ∧ event = .emptyInput config.emptyInput) ∨
      (config.trailing = .ignore ∧ exists expr next rest,
        read config tokens = ⟨.ok expr, next :: rest⟩ ∧
        event = .ignored (rest.length + 1) next) := by
  cases tokens with
  | nil =>
      have whole : read config [] = ⟨.ok (.leaf config.emptyInput), []⟩ := rfl
      simp [events, whole]
  | cons token tokens =>
      rw [events_cons, mem_finish_events_iff,
        TypeExpr.read_of_ne_nil config (List.cons_ne_nil token tokens)]
      simp only [reduceCtorEq, false_and, false_or]
      apply and_congr_right
      intro ignoring
      rw [ignoring, Reading.settle_ignore]

theorem span?_and_level_of_mem_events (told : event ∈ events config tokens) :
    event.span? = none ∧ (event.level = .trace ∨ event.level = .debug) := by
  rcases mem_events_iff.mp told with ⟨_, same⟩ | ⟨_, _, _, _, _, same⟩
  · rw [same]
    exact ⟨rfl, .inl rfl⟩
  · rw [same]
    exact ⟨rfl, .inr rfl⟩

theorem eq_emptyInput_of_level_trace (told : event ∈ events config tokens)
    (level : event.level = .trace) :
    tokens = [] ∧ event = .emptyInput config.emptyInput := by
  rcases mem_events_iff.mp told with replaced | ⟨_, _, _, _, _, rfl⟩
  · exact replaced
  · cases level

theorem eq_ignored_of_level_debug (told : event ∈ events config tokens)
    (level : event.level = .debug) :
    config.trailing = .ignore ∧ exists expr next rest,
      read config tokens = ⟨.ok expr, next :: rest⟩ ∧
      event = .ignored (rest.length + 1) next := by
  rcases mem_events_iff.mp told with ⟨_, rfl⟩ | ignored
  · cases level
  · exact ignored

theorem events_eq_nil_of_error {error : ParseError} (failed : parse config tokens = .error error) :
    events config tokens = [] := by
  apply List.eq_nil_iff_forall_not_mem.mpr
  intro event told
  rcases mem_events_iff.mp told with ⟨rfl, _⟩ | ⟨_, expr, next, rest, finished, _⟩
  · cases failed
  · rw [parse, finished] at failed
    cases failed

theorem exists_trace_event_iff :
    (exists event, event ∈ events config tokens ∧ event.level = .trace) <-> tokens = [] := by
  constructor
  · rintro ⟨event, told, level⟩
    exact (eq_emptyInput_of_level_trace told level).1
  · intro empty
    exact ⟨.emptyInput config.emptyInput, mem_events_iff.mpr (.inl ⟨empty, rfl⟩), rfl⟩

/-! ## Ignored tokens are those that would be rejected -/

theorem parse_reject_of_leftover {expr : TypeExpr} {next : Token} {rest : List Token}
    (ignoring : config.trailing = .ignore)
    (finished : read config tokens = ⟨.ok expr, next :: rest⟩) :
    parse (config.withTrailing .reject) tokens =
      .error (.unexpectedToken next (some .endOfInput)) := by
  rw [parse, TypeExpr.read_strict_eq_settle ignoring rfl, finished]
  rfl

theorem exists_leftover_of_parse_reject {expr : TypeExpr} {error : ParseError}
    (ignoring : config.trailing = .ignore) (parsed : parse config tokens = .ok expr)
    (rejected : parse (config.withTrailing .reject) tokens = .error error) :
    exists next rest, read config tokens = ⟨.ok expr, next :: rest⟩ := by
  rcases Reading.result_eq_iff.mp parsed with ⟨rest, finished⟩
  cases rest with
  | nil =>
      rw [parse, TypeExpr.read_strict_eq_settle ignoring rfl, finished] at rejected
      cases rejected
  | cons next rest => exact ⟨next, rest, finished⟩

/-- Tokens are reported as ignored exactly where the two policies disagree. -/
theorem exists_debug_event_iff :
    (exists event, event ∈ events config tokens ∧ event.level = .debug) <->
      config.trailing = .ignore ∧ (exists expr, parse config tokens = .ok expr) ∧
        exists error, parse (config.withTrailing .reject) tokens = .error error := by
  constructor
  · rintro ⟨event, told, level⟩
    rcases eq_ignored_of_level_debug told level with ⟨ignoring, expr, next, rest, finished, _⟩
    exact ⟨ignoring, ⟨expr, Reading.result_eq_iff.mpr ⟨_, finished⟩⟩,
      ⟨_, parse_reject_of_leftover ignoring finished⟩⟩
  · rintro ⟨ignoring, ⟨expr, parsed⟩, ⟨error, rejected⟩⟩
    rcases exists_leftover_of_parse_reject ignoring parsed rejected with ⟨next, rest, finished⟩
    exact ⟨.ignored (rest.length + 1) next,
      mem_events_iff.mpr (.inr ⟨ignoring, expr, next, rest, finished, rfl⟩), rfl⟩

/-- The consumed tokens and the reported ones make up the input, and the reported token is the one
that would be rejected. -/
theorem exists_consumed_of_level_debug (told : event ∈ events config tokens)
    (level : event.level = .debug) :
    exists consumed remaining actual expected,
      tokens = consumed ++ (read config tokens).rest ∧
      remaining + consumed.length = tokens.length ∧ 1 ≤ remaining ∧
      parse (config.withTrailing .reject) tokens = .error (.unexpectedToken actual expected) ∧
      event = .ignored remaining actual := by
  rcases eq_ignored_of_level_debug told level with ⟨ignoring, expr, next, rest, finished, same⟩
  have nonempty : tokens ≠ [] := by
    rintro rfl
    cases finished
  rcases TypeExpr.exists_spells_of_read nonempty finished with ⟨consumed, split, _⟩
  refine ⟨consumed, rest.length + 1, next, some .endOfInput, ?_, ?_, Nat.le_add_left 1 _,
    parse_reject_of_leftover ignoring finished, same⟩
  · rw [finished]
    exact split
  · rw [split, List.length_append, List.length_cons, Nat.add_comm]

/-- The trace of a configured reading is one span with the number of tokens and the policy, and at
most one event behind it.  The event of an empty input is there exactly when the input is empty.
The event of ignored tokens is there exactly when they are ignored, with success, and rejecting
them fails; it counts the tokens behind the expression and shows the one that is rejected.  A
failing reading leaves no event.  All this is reported by the reading itself, on its way. -/
theorem configured_trace_tells_what_was_dropped (config : Config) (tokens : List Token) :
    exists span logged,
      ofConfiguredType config tokens = span :: logged ∧
      reportingRead config tokens = ⟨read config tokens, logged⟩ ∧
      (span.level = .info ∧ span.span? = some "parse_with_config" ∧
        span.fields =
          [("token_count", tokens.length.repr), ("trailing", config.trailing.text)]) ∧
      logged.length ≤ 1 ∧
      (forall event, event ∈ logged ->
        event.span? = none ∧ (event.level = .trace ∨ event.level = .debug)) ∧
      ((exists event, event ∈ logged ∧ event.level = .trace) <-> tokens = []) ∧
      (forall event, event ∈ logged -> event.level = .trace ->
        event.fields = [("message", "empty input, parsing default literal"),
          ("literal", config.emptyInput.text)]) ∧
      ((exists event, event ∈ logged ∧ event.level = .debug) <->
        config.trailing = .ignore ∧ (exists expr, parse config tokens = .ok expr) ∧
          exists error, parse (config.withTrailing .reject) tokens = .error error) ∧
      (forall event, event ∈ logged -> event.level = .debug ->
        exists consumed remaining actual expected,
          tokens = consumed ++ (read config tokens).rest ∧
          remaining + consumed.length = tokens.length ∧ 1 ≤ remaining ∧
          parse (config.withTrailing .reject) tokens =
            .error (.unexpectedToken actual expected) ∧
          event.fields = [("message", "ignoring tokens after complete type expression"),
            ("remaining", remaining.repr), ("next", actual.text)]) ∧
      (forall error, parse config tokens = .error error -> logged = []) := by
  refine ⟨.beganConfigured tokens.length config.trailing, events config tokens, rfl,
    reportingRead_eq config tokens, ⟨rfl, rfl, rfl⟩, events_length_le config tokens,
    ?_, exists_trace_event_iff, ?_, exists_debug_event_iff, ?_, ?_⟩
  · intro event told
    exact span?_and_level_of_mem_events told
  · intro event told level
    rw [(eq_emptyInput_of_level_trace told level).2]
    rfl
  · intro event told level
    rcases exists_consumed_of_level_debug told level with
      ⟨consumed, remaining, actual, expected, split, total, some, rejected, same⟩
    rw [same]
    exact ⟨consumed, remaining, actual, expected, split, total, some, rejected, rfl⟩
  · intro error failed
    exact events_eq_nil_of_error failed

/-- The strict reading fails on the closing parenthesis that nothing opened, so the permissive one
tells that it was ignored. -/
theorem trace_of_name_before_rparen :
    exists event,
      event ∈ ofConfiguredType .standard [Token.name "a", .punct .rparen, Token.name "b"] ∧
      event.level = .debug := by
  rcases configured_trace_tells_what_was_dropped .standard
      [Token.name "a", .punct .rparen, Token.name "b"] with
    ⟨span, logged, whole, _, _, _, _, _, _, dropped, _⟩
  rcases dropped.mpr ⟨rfl, ⟨_, rfl⟩, ⟨_, rfl⟩⟩ with ⟨event, told, level⟩
  rw [whole]
  exact ⟨event, List.mem_cons_of_mem span told, level⟩

end Trace
end TreeShapes
