import TreeShapes.Reader

namespace TreeShapes

/-!
# Configuration of type expressions

Three literals that a reading may insert, and what happens to tokens that
follow a complete expression.
-/

/-- What a reading of type expressions can be told. -/
structure Config where
  /-- Read in place of an empty input. -/
  emptyInput : Literal
  /-- Ends a fixed-length list. -/
  listTerminator : Literal
  /-- Ends a fixed-length list whose last element is an ellipsis. -/
  openTail : Literal
  /-- Decides about tokens after a complete expression. -/
  trailing : Trailing
deriving DecidableEq

namespace Config

/-- The standard grammar: `any`, `nil`, `any`, and leftover tokens are ignored. -/
def standard : Config where
  emptyInput := .name Literal.anySpelling
  listTerminator := .name Literal.nilSpelling
  openTail := .name Literal.anySpelling
  trailing := .ignore

def withEmptyInput (config : Config) (literal : Literal) : Config :=
  { config with emptyInput := literal }

def withListTerminator (config : Config) (literal : Literal) : Config :=
  { config with listTerminator := literal }

def withOpenTail (config : Config) (literal : Literal) : Config :=
  { config with openTail := literal }

def withTrailing (config : Config) (trailing : Trailing) : Config :=
  { config with trailing := trailing }

/-- The standard grammar, with leftover tokens rejected. -/
def strict : Config :=
  standard.withTrailing .reject

end Config

end TreeShapes
