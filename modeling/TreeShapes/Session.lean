import TreeShapes.TypeExpr.Reading

namespace TreeShapes

/-!
# Sessions

A session reads one expression after another from a single token list.  Each
reading goes on where the last one stopped, also after an error.  Only a
session over an empty input reads the configured literal; a session that has
used up its tokens has nothing more to read.
-/

/-- A token list being read expression by expression. -/
structure Session where
  config : Config
  /-- Whether the session began without any token. -/
  startedEmpty : Bool
  /-- The tokens not yet read. -/
  remaining : List Token

namespace Session

def start (config : Config) (tokens : List Token) : Session where
  config := config
  startedEmpty := tokens.isEmpty
  remaining := tokens

def next (session : Session) : Except ParseError TypeExpr × Session :=
  if session.startedEmpty then
    (.ok (.leaf session.config.emptyInput), session)
  else
    let reading := TypeExpr.readNext session.config session.remaining
    (reading.result, { session with remaining := reading.rest })

/-- The results of several readings, each with the tokens that it left. -/
def results : Nat -> Session -> List (Except ParseError TypeExpr × List Token)
  | 0, _ => []
  | count + 1, session =>
      let (result, later) := session.next
      (result, later.remaining) :: results count later

end Session

end TreeShapes
