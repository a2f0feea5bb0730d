import TreeShapes.Cursor.Basic

namespace TreeShapes
namespace Cursor

/-!
# Walks of a cursor

A walk performs operations one after the other on one cursor.  Copies can be
put aside and taken up again; the copy put aside last is taken up first.
-/

/-- What can be asked of a cursor during a walk. -/
inductive Operation where
  | peek
  | isAtEnd
  | remaining
  | position
  | check (mark : Punctuation)
  | accept (mark : Punctuation)
  | take
  | takeMark (mark : Punctuation)
  | takeOneOf (marks : List Punctuation)
  /-- Put a copy aside. -/
  | save
  /-- Take up the copy put aside last. -/
  | restore
deriving DecidableEq

inductive Answer where
  | next (token : Option Token)
  | flag (value : Bool)
  | tokens (remaining : List Token)
  | count (position : Nat)
  | taken (result : Except ParseError Token)
  | done

/-- A cursor with the copies put aside. -/
structure Walk where
  cursor : Cursor
  saved : List Cursor

namespace Walk

/-- A walk from the first token, with nothing put aside. -/
def start (tokens : List Token) : Walk where
  cursor := Cursor.start tokens
  saved := []

def move (walk : Walk) (cursor : Cursor) : Walk :=
  { walk with cursor := cursor }

def perform (walk : Walk) : Operation -> Answer × Walk
  | .peek => (.next walk.cursor.peek?, walk)
  | .isAtEnd => (.flag walk.cursor.isAtEnd, walk)
  | .remaining => (.tokens walk.cursor.remaining, walk)
  | .position => (.count walk.cursor.position, walk)
  | .check mark => (.flag (walk.cursor.check mark), walk)
  | .accept mark =>
      let (accepted, cursor) := walk.cursor.accept mark
      (.flag accepted, walk.move cursor)
  | .take =>
      let (result, cursor) := walk.cursor.take
      (.taken result, walk.move cursor)
  | .takeMark mark =>
      let (result, cursor) := walk.cursor.takeMark mark
      (.taken result, walk.move cursor)
  | .takeOneOf marks =>
      let (result, cursor) := walk.cursor.takeOneOf marks
      (.taken result, walk.move cursor)
  | .save => (.done, { walk with saved := walk.cursor :: walk.saved })
  | .restore =>
      match walk.saved with
      | [] => (.flag false, walk)
      | last :: others => (.flag true, ⟨last, others⟩)

/-- Perform operations in order; each answer comes with the cursor after it. -/
def run : Walk -> List Operation -> List (Answer × Cursor)
  | _, [] => []
  | walk, operation :: rest =>
      let (answer, later) := walk.perform operation
      (answer, later.cursor) :: run later rest

end Walk

end Cursor
end TreeShapes
