import TreeShapes.ParseError

namespace TreeShapes

/-!
# Token cursors

A cursor stands between the tokens already delivered and those still to come.
Matching a mark moves it only on success; taking a token moves it past that
token even when the token is not the wanted one; nothing moves it at the end.
A cursor is a value, so a saved cursor can be used again.
-/

/-- A place in a token list: how many tokens lie before it, and those after it. -/
structure Cursor where
  position : Nat
  remaining : List Token
deriving DecidableEq

namespace Cursor

def start (tokens : List Token) : Cursor where
  position := 0
  remaining := tokens

/-- The next token, left in place. -/
def peek? (cursor : Cursor) : Option Token :=
  cursor.remaining.head?

def isAtEnd (cursor : Cursor) : Bool :=
  cursor.remaining.isEmpty

/-- The cursor after the next token; at the end it stays. -/
def advance (cursor : Cursor) : Cursor :=
  match cursor.remaining with
  | [] => cursor
  | _ :: rest => ⟨cursor.position + 1, rest⟩

def check (cursor : Cursor) (mark : Punctuation) : Bool :=
  cursor.peek? == some (.punct mark)

/-- Move past the given mark if it comes next, and tell whether it did. -/
def accept (cursor : Cursor) (mark : Punctuation) : Bool × Cursor :=
  if cursor.check mark then (true, cursor.advance) else (false, cursor)

def take (cursor : Cursor) : Except ParseError Token × Cursor :=
  match cursor.peek? with
  | none => (.error (.unexpectedEnd none), cursor)
  | some token => (.ok token, cursor.advance)

/-- Take the next token, which should be one of the given marks. -/
def takeOneOf (cursor : Cursor) (marks : List Punctuation) :
    Except ParseError Token × Cursor :=
  match cursor.peek? with
  | none => (.error (.unexpectedEnd (some (.ofMarks marks))), cursor)
  | some token =>
      if marks.any fun mark => token == .punct mark then
        (.ok token, cursor.advance)
      else
        (.error (.unexpectedToken token (some (.ofMarks marks))), cursor.advance)

def takeMark (cursor : Cursor) (mark : Punctuation) :
    Except ParseError Token × Cursor :=
  cursor.takeOneOf [mark]

end Cursor

end TreeShapes
