import TreeShapes.ParseError

namespace TreeShapes

/-!
# Reports of parse errors

A report shows the code of an error, its message behind a mark, and advice.  A
message may run over several lines, because a token may hold any text.
-/

namespace ParseError

def messageLines (text : String) : List (List Char) :=
  text.toList.splitOn '\n'

/-- A line of a report behind its mark; blanks at the end are dropped. -/
def markedLine (mark : String) (line : List Char) : String :=
  mark ++ String.ofList (line.reverse.dropWhile fun char => char == ' ').reverse

/-- A message in a report: a cross marks its first line and a bar every other line. -/
def markedMessage (text : String) : String :=
  match messageLines text with
  | [] => ""
  | first :: others =>
      String.join ((markedLine "  × " first :: others.map (markedLine "  │ ")).intersperse "\n")

/-- The report of an error: its code, its message, and advice if there is any. -/
def report (error : ParseError) : String :=
  error.code ++ "\n\n" ++ markedMessage error.message ++
    match error.help? with
    | some advice => "\n  help: " ++ advice
    | none => ""

end ParseError

end TreeShapes
