import TreeShapes.BinaryTree.Reading
import TreeShapes.TypeExpr.Reading

namespace TreeShapes

/-!
# Traces

What a reading reports about itself: that it began, with how many tokens; that
an empty input was replaced by a literal; that tokens after a complete
expression were ignored.  A failing reading reports only that it began.
-/

inductive Trace.Level where
  | info
  | debug
  | trace
deriving DecidableEq

inductive Trace.Entry where
  /-- A reading without a configuration of its own began. -/
  | began (tokenCount : Nat)
  /-- A reading with the given configuration began. -/
  | beganConfigured (tokenCount : Nat) (trailing : Trailing)
  /-- The input was empty and the literal was read instead. -/
  | emptyInput (literal : Literal)
  /-- Tokens after a complete expression were left unread. -/
  | ignored (remaining : Nat) (next : Token)
deriving DecidableEq

/-- The name of a policy for leftover tokens. -/
def Trailing.text : Trailing -> String
  | ignore => "Ignore"
  | reject => "Reject"

namespace Trace
namespace Entry

def level : Entry -> Level
  | began _ => .info
  | beganConfigured _ _ => .info
  | emptyInput _ => .trace
  | ignored _ _ => .debug

/-- The name of the activity that an entry opens, if it opens one. -/
def span? : Entry -> Option String
  | began _ => some "parse"
  | beganConfigured _ _ => some "parse_with_config"
  | emptyInput _ => none
  | ignored _ _ => none

/-- The details of an entry, each with its name. -/
def fields : Entry -> List (String × String)
  | began tokenCount => [("token_count", tokenCount.repr)]
  | beganConfigured tokenCount trailing =>
      [("token_count", tokenCount.repr), ("trailing", trailing.text)]
  | emptyInput literal =>
      [("message", "empty input, parsing default literal"), ("literal", literal.text)]
  | ignored remaining next =>
      [("message", "ignoring tokens after complete type expression"),
        ("remaining", remaining.repr), ("next", next.text)]

end Entry

/-- What a reading reports after it began. -/
def events (config : Config) (tokens : List Token) : List Entry :=
  match tokens with
  | [] => [.emptyInput config.emptyInput]
  | _ =>
      match config.trailing, TypeExpr.readLongest config tokens with
      | .ignore, ⟨.ok _, next :: rest⟩ => [.ignored (rest.length + 1) next]
      | _, _ => []

def ofType (tokens : List Token) : List Entry :=
  .began tokens.length :: events .standard tokens

/-- The trace of reading a type expression under a given configuration. -/
def ofConfiguredType (config : Config) (tokens : List Token) : List Entry :=
  .beganConfigured tokens.length config.trailing :: events config tokens

def ofTree (tokens : List Token) : List Entry :=
  [.began tokens.length]

end Trace

end TreeShapes
