import TreeShapes.Proofs.Lookahead
import TreeShapes.Proofs.Spellings
import TreeShapes.Proofs.TreeGrammar

namespace TreeShapes

/-!
# The message of an error determines the error

Messages put the text of tokens between quotes and escape nothing.  A name may
hold quotes itself, so that errors put together at will can share a message.
The errors of the two readers cannot, for two reasons.

Expectations come from a short list: they name marks or the end, never a token
of the input.  A message up to the text of the unexpected token is therefore one
of few beginnings, and no beginning starts another one.  What remains is the
text of that token and a quote.  And the token was classified from a spelling,
so that its text tells which token it is.
-/

/-! ## What readers report -/

/-- What the errors of readers say was expected. -/
def Expected.reported : List (Option Expected) :=
  [none, some .endOfInput, some (.ofMarks [.rparen]), some (.ofMarks [.dot]),
    some (.ofMarks [.rangle]), some (.ofMarks [.rbracket]), some (.ofMarks [.comma, .rbracket])]

/-- The error expects what readers report, and its unexpected token is one of the given ones. -/
structure ParseError.IsAbout (tokens : List Token) (error : ParseError) : Prop where
  expected_reported : error.expected? ∈ Expected.reported
  actual_mem : forall actual, error.actual? = some actual -> actual ∈ tokens

theorem ParseError.isAbout_unexpectedToken {consumed after : List Token} {actual : Token}
    {expected : Option Expected} (reported : expected ∈ Expected.reported) :
    (ParseError.unexpectedToken actual expected).IsAbout (consumed ++ actual :: after) := by
  refine ⟨reported, ?_⟩
  intro token same
  cases same
  exact List.mem_append_cons_self

namespace Reader

variable {σ α : Type} {reader : Reader σ α}

/-- An error is about its input if every demand of the reader can be reported. -/
theorem isAbout_of_settle
    (known : forall state expected, reader.demand state = .token expected ->
      expected ∈ Expected.reported)
    {trailing : Trailing} {tokens : List Token} {error : ParseError}
    (failed : ((reader.read tokens).settle trailing).result = .error error) :
    error.IsAbout tokens := by
  rcases Reading.result_eq_iff.mp failed with ⟨rest, whole⟩
  cases error with
  | unexpectedEnd expected =>
      have ended : reader.read tokens = ⟨.error (.unexpectedEnd expected), rest⟩ := by
        cases trailing with
        | ignore => exact whole
        | reject => exact Reading.settle_reject_eq_unexpectedEnd_iff.mp whole
      rcases reader.run_eq_unexpectedEnd_iff.mp ended with ⟨_, last, _, wanted⟩
      exact ⟨known last expected wanted, nofun⟩
  | unexpectedToken token expected =>
      rcases Reading.of_settle_eq_unexpectedToken whole with early | late
      · rcases reader.run_eq_unexpectedToken_iff.mp early with
          ⟨consumed, last, split, _, wanted, _⟩
        rw [split]
        exact ParseError.isAbout_unexpectedToken (known last expected wanted)
      · rcases late with ⟨_, atEnd, value, after, finished⟩
        rcases reader.run_eq_ok_iff.mp finished with ⟨consumed, _, split, _⟩
        rw [split, atEnd]
        exact ParseError.isAbout_unexpectedToken (by decide)

end Reader

theorem TypeExpr.Bracket.expected_reported (bracket : TypeExpr.Bracket) :
    some bracket.expected ∈ Expected.reported := by
  cases bracket <;> simp [TypeExpr.Bracket.expected, Expected.reported]

theorem TypeExpr.reported_of_demand (state : TypeExpr.State) (expected : Option Expected)
    (wanted : TypeExpr.demand state = .token expected) : expected ∈ Expected.reported := by
  rcases state with ⟨place, members, frames⟩
  cases place with
  | after atom =>
      cases frames with
      | nil => cases wanted
      | cons frame frames =>
          cases wanted
          exact frame.bracket.expected_reported
  | _ =>
      cases wanted
      decide

theorem BinaryTree.Bracket.expected_reported (bracket : BinaryTree.Bracket) :
    some bracket.expected ∈ Expected.reported := by
  cases bracket <;> simp [BinaryTree.Bracket.expected, Expected.reported]

theorem BinaryTree.reported_of_demand (state : BinaryTree.State) (expected : Option Expected)
    (wanted : BinaryTree.demand state = .token expected) : expected ∈ Expected.reported := by
  rcases state with ⟨place, brackets⟩
  cases place with
  | after tree =>
      cases brackets with
      | nil => cases wanted
      | cons bracket brackets =>
          cases wanted
          exact bracket.expected_reported
  | _ =>
      cases wanted
      decide

theorem TypeExpr.isAbout_of_parse {config : Config} {tokens : List Token} {error : ParseError}
    (failed : TypeExpr.parse config tokens = .error error) : error.IsAbout tokens := by
  by_cases empty : tokens = []
  · subst empty
    cases failed
  · rw [TypeExpr.parse, TypeExpr.read_of_ne_nil config empty] at failed
    exact Reader.isAbout_of_settle TypeExpr.reported_of_demand failed

theorem BinaryTree.isAbout_of_parse {tokens : List Token} {error : ParseError}
    (failed : BinaryTree.parse tokens = .error error) : error.IsAbout tokens := by
  by_cases empty : tokens = []
  · subst empty
    cases failed
  · rw [BinaryTree.parse, BinaryTree.read_of_ne_nil empty] at failed
    exact Reader.isAbout_of_settle BinaryTree.reported_of_demand failed

/-! ## Beginnings of messages -/

namespace ParseError

/-- The message about an unexpected token, up to the text of that token. -/
def lead : Option Expected -> String
  | none => "Unexpected token: '"
  | some expected => "Unexpected token: expected " ++ expected.text ++ " got '"

theorem message_unexpectedToken (actual : Token) (expected : Option Expected) :
    (unexpectedToken actual expected).message = lead expected ++ (actual.text ++ "'") := by
  cases expected with
  | none =>
      have quote : "Unexpected token: '" = "Unexpected token: " ++ "'" := by decide
      change "Unexpected token: " ++ ("'" ++ actual.text ++ "'") =
        "Unexpected token: '" ++ (actual.text ++ "'")
      rw [quote, String.append_assoc, String.append_assoc]
  | some wanted =>
      have quote : " got '" = " got " ++ "'" := by decide
      change "Unexpected token: expected " ++ wanted.text ++ " got " ++ ("'" ++ actual.text ++ "'") =
        "Unexpected token: expected " ++ wanted.text ++ " got '" ++ (actual.text ++ "'")
      rw [quote]
      simp only [String.append_assoc]

/-- No beginning of a message starts another one. -/
theorem eq_of_lead_begins {first second : Option Expected}
    (firstReported : first ∈ Expected.reported) (secondReported : second ∈ Expected.reported)
    (begins : (lead first).toList <+: (lead second).toList) : first = second := by
  have prefixFree : forall own, own ∈ Expected.reported ->
      forall other, other ∈ Expected.reported ->
        (lead own).toList <+: (lead other).toList -> own = other := by
    decide +kernel
  exact prefixFree first firstReported second secondReported begins

/-- A message about an unexpected token tells what was expected and the text of the token. -/
theorem eq_of_message_unexpectedToken_eq {first second : Option Expected} {actual other : Token}
    (firstReported : first ∈ Expected.reported) (secondReported : second ∈ Expected.reported)
    (same : (unexpectedToken actual first).message = (unexpectedToken other second).message) :
    first = second ∧ actual.text = other.text := by
  rw [message_unexpectedToken, message_unexpectedToken] at same
  have letters := congrArg String.toList same
  simp only [String.toList_append] at letters
  have leads : (lead first).toList <+: (lead second).toList ∨
      (lead second).toList <+: (lead first).toList := by
    apply List.prefix_or_prefix_of_prefix (List.prefix_append _ _)
    rw [letters]
    exact List.prefix_append _ _
  have expectation : first = second := by
    rcases leads with begins | begins
    · exact eq_of_lead_begins firstReported secondReported begins
    · exact (eq_of_lead_begins secondReported firstReported begins).symm
  subst expectation
  have behind := List.append_cancel_left letters
  have texts := List.append_cancel_right behind
  exact ⟨rfl, String.toList_injective texts⟩

/-- A message about the end of the input tells what was expected. -/
theorem eq_of_message_unexpectedEnd_eq {first second : Option Expected}
    (firstReported : first ∈ Expected.reported) (secondReported : second ∈ Expected.reported)
    (same : (unexpectedEnd first).message = (unexpectedEnd second).message) : first = second := by
  have distinct : forall own, own ∈ Expected.reported ->
      forall other, other ∈ Expected.reported ->
        (unexpectedEnd own).message = (unexpectedEnd other).message -> own = other := by
    decide +kernel
  exact distinct first firstReported second secondReported same

/-! The letter behind the first word tells the two kinds of error apart. -/

theorem letter_unexpectedEnd (expected : Option Expected) :
    (unexpectedEnd expected).message.toList[11]? = some 'e' := by
  cases expected with
  | none => rfl
  | some wanted =>
      change ("Unexpected end of input: Expected " ++ wanted.text).toList[11]? = _
      rw [String.toList_append]
      rfl

theorem letter_unexpectedToken (actual : Token) (expected : Option Expected) :
    (unexpectedToken actual expected).message.toList[11]? = some 't' := by
  rw [message_unexpectedToken, String.toList_append]
  cases expected with
  | none => rfl
  | some wanted =>
      change (("Unexpected token: expected " ++ wanted.text ++ " got '").toList ++ _)[11]? = _
      rw [String.toList_append, String.toList_append]
      rfl

theorem message_unexpectedEnd_ne (expected other : Option Expected) (actual : Token) :
    (unexpectedEnd expected).message ≠ (unexpectedToken actual other).message := by
  intro same
  have letters := letter_unexpectedEnd expected
  rw [same, letter_unexpectedToken] at letters
  cases letters

/-- Errors with one message are equal, if their expectations are reported ones and their tokens are
told apart by their texts. -/
theorem eq_of_message_eq {first second : ParseError}
    (firstReported : first.expected? ∈ Expected.reported)
    (secondReported : second.expected? ∈ Expected.reported)
    (legible : forall actual other, first.actual? = some actual -> second.actual? = some other ->
      actual.text = other.text -> actual = other)
    (same : first.message = second.message) : first = second := by
  cases first with
  | unexpectedEnd expected =>
      cases second with
      | unexpectedEnd other =>
          have expectation : expected = other :=
            eq_of_message_unexpectedEnd_eq firstReported secondReported same
          rw [expectation]
      | unexpectedToken actual other =>
          exact absurd same (message_unexpectedEnd_ne expected other actual)
  | unexpectedToken actual expected =>
      cases second with
      | unexpectedEnd other =>
          exact absurd same.symm (message_unexpectedEnd_ne other expected actual)
      | unexpectedToken token other =>
          have parts : expected = other ∧ actual.text = token.text :=
            eq_of_message_unexpectedToken_eq firstReported secondReported same
          rw [parts.1, legible actual token rfl rfl parts.2]

/-! ## Errors of classified spellings -/

/-- The error ended the reading of some spellings: of a type expression, under some configuration,
or of a tree. -/
inductive EndsReading : ParseError -> Prop
  | typeExpr {config : Config} {spellings : List String} {error : ParseError}
      (failed : TypeExpr.parse config (spellings.map Token.classify) = .error error) :
      EndsReading error
  | tree {spellings : List String} {error : ParseError}
      (failed : BinaryTree.parse (spellings.map Token.classify) = .error error) :
      EndsReading error

theorem EndsReading.exists_isAbout {error : ParseError} (ended : error.EndsReading) :
    exists spellings : List String, error.IsAbout (spellings.map Token.classify) := by
  cases ended with
  | typeExpr failed => exact ⟨_, TypeExpr.isAbout_of_parse failed⟩
  | tree failed => exact ⟨_, BinaryTree.isAbout_of_parse failed⟩

/-- The token of such an error is read again from its text. -/
theorem EndsReading.classify_text {error : ParseError} (ended : error.EndsReading)
    {actual : Token} (unexpected : error.actual? = some actual) :
    Token.classify actual.text = actual := by
  rcases ended.exists_isAbout with ⟨spellings, about⟩
  rcases List.mem_map.mp (about.actual_mem actual unexpected) with ⟨spelling, _, rfl⟩
  exact Token.classify_text_classify spelling

/-- Two errors of readings are equal if their messages are, whatever was read and by which reader,
and whatever the spellings contain. -/
theorem message_determines_error {first second : ParseError} (firstEnded : first.EndsReading)
    (secondEnded : second.EndsReading) (same : first.message = second.message) :
    first = second := by
  rcases firstEnded.exists_isAbout with ⟨_, firstAbout⟩
  rcases secondEnded.exists_isAbout with ⟨_, secondAbout⟩
  apply eq_of_message_eq firstAbout.expected_reported secondAbout.expected_reported _ same
  intro actual other unexpected otherUnexpected texts
  calc
    actual = Token.classify actual.text := (firstEnded.classify_text unexpected).symm
    _ = Token.classify other.text := by rw [texts]
    _ = other := secondEnded.classify_text otherUnexpected

/-- Behind the left child of a node, both readers refuse a name that is made of quotes. -/
theorem message_of_quotes_behind_left_child :
    exists first second : ParseError,
      TypeExpr.parse .strict (["<", "a", "' got '"].map Token.classify) = .error first ∧
      BinaryTree.parse (["<", "nil", "' got '"].map Token.classify) = .error second ∧
      first.message = second.message ∧ first = second := by
  have typeFailed : TypeExpr.parse .strict (["<", "a", "' got '"].map Token.classify) =
      .error (.unexpectedToken (Token.name "' got '") (some (.ofMarks [.dot]))) := rfl
  have treeFailed : BinaryTree.parse (["<", "nil", "' got '"].map Token.classify) =
      .error (.unexpectedToken (Token.name "' got '") (some (.ofMarks [.dot]))) := rfl
  exact ⟨_, _, typeFailed, treeFailed, rfl,
    message_determines_error (.typeExpr typeFailed) (.tree treeFailed) rfl⟩

/-- Errors that no reading ends with may share a message. -/
example :
    let first := unexpectedToken (Token.name "b' got 'c") (some (.token (Token.name "a")))
    let second := unexpectedToken (Token.name "c") (some (.token (Token.name "a' got 'b")))
    first.message = second.message ∧ first ≠ second := by
  decide

end ParseError
end TreeShapes
