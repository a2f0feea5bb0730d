import TreeShapes.Token

namespace TreeShapes

/-!
# Parse errors

A reading fails in exactly two ways: the tokens run out, or a token stands
where it cannot.  Both may say what the position would have accepted.  The
wording of an error is decided here and nowhere else.
-/

/-- What a position would have accepted. -/
inductive Expected where
  /-- Exactly this token. -/
  | token (token : Token)
  /-- One of these tokens. -/
  | oneOf (tokens : List Token)
  /-- Nothing: the input should have ended. -/
  | endOfInput
deriving DecidableEq

namespace Expected

/-- A set of candidates; a single candidate is expected by itself. -/
def ofCandidates : List Token -> Expected
  | [only] => .token only
  | candidates => .oneOf candidates

def ofMarks (marks : List Punctuation) : Expected :=
  ofCandidates (marks.map Token.punct)

def tokens : Expected -> List Token
  | token only => [only]
  | oneOf several => several
  | endOfInput => []

@[simp] theorem tokens_ofMarks (marks : List Punctuation) :
    (ofMarks marks).tokens = marks.map Token.punct := by
  cases marks with
  | nil => rfl
  | cons mark others => cases others <;> rfl

end Expected

/-- A token as error messages show it: between quotes, its text unchanged. -/
def Token.quoted (token : Token) : String :=
  "'" ++ token.text ++ "'"

def Expected.text : Expected -> String
  | token only => only.quoted
  | oneOf several =>
      "one of [" ++ String.join ((several.map Token.quoted).intersperse ", ") ++ "]"
  | endOfInput => "end of input"

/-- Why a reading failed. -/
inductive ParseError where
  /-- The tokens ran out where one more was required. -/
  | unexpectedEnd (expected : Option Expected)
  /-- A token stands at a position that does not accept it. -/
  | unexpectedToken (actual : Token) (expected : Option Expected)
deriving DecidableEq

namespace ParseError

/-- The offending token, if there is one. -/
def actual? : ParseError -> Option Token
  | unexpectedEnd _ => none
  | unexpectedToken actual _ => some actual

/-- What would have been accepted instead, if that can be said. -/
def expected? : ParseError -> Option Expected
  | unexpectedEnd expected => expected
  | unexpectedToken _ expected => expected

def message : ParseError -> String
  | unexpectedEnd none => "Unexpected end of input"
  | unexpectedEnd (some expected) => "Unexpected end of input: Expected " ++ expected.text
  | unexpectedToken actual none => "Unexpected token: " ++ actual.quoted
  | unexpectedToken actual (some expected) =>
      "Unexpected token: expected " ++ expected.text ++ " got " ++ actual.quoted

def code : ParseError -> String
  | unexpectedEnd _ => "treetype::unexpected_end_of_input"
  | unexpectedToken _ _ => "treetype::unexpected_token"

/-- Advice, where there is any to give. -/
def help? : ParseError -> Option String
  | unexpectedEnd _ => some "the expression stops before every bracket is closed"
  | unexpectedToken _ _ => none

end ParseError

end TreeShapes
