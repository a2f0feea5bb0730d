import TreeShapes.BinaryTree.Printing
import TreeShapes.BinaryTree.Reading
import TreeShapes.CommandLine.Pages
import TreeShapes.CommandLine.Report
import TreeShapes.TypeExpr.Layout
import TreeShapes.TypeExpr.Reading

namespace TreeShapes

/-!
# Running requests

What the program prints for a request, and the exit code that goes with each
outcome.
-/

namespace CommandLine

/-- What the command `type` prints: the indented outline of the expression. -/
def runType (strict : Bool) (spellings : List String) : Except ParseError String :=
  let config := if strict then Config.strict else Config.standard
  (TypeExpr.parse config (spellings.map Token.classify)).map fun expr =>
    expr.text .indented ++ "\n"

/-- What the command `tree` prints: the tree, and the number it stands for unless that is zero. -/
def runTree (spellings : List String) : Except ParseError String :=
  (BinaryTree.parse (spellings.map Token.classify)).map fun tree =>
    tree.text ++ "\n" ++
      match tree.number? with
      | some (count + 1) => "= " ++ (count + 1).repr ++ "\n"
      | _ => ""

def Request.run : Request -> Except ParseError String
  | type strict tokens => runType strict tokens
  | tree tokens => runTree tokens

/-- What the program leaves behind when it ends. -/
structure Completion where
  exitCode : UInt32
  output : String
  errors : String
deriving DecidableEq

namespace Completion

def success (output : String) : Completion :=
  ⟨0, output, ""⟩

def failure (error : ParseError) : Completion :=
  ⟨1, "", error.report ++ "\n"⟩

def misuse (error : UsageError) : Completion :=
  ⟨2, "", error.message ++ "\n"⟩

end Completion

/-- Do what the arguments ask for. -/
def Invocation.complete : Invocation -> Completion
  | run request =>
      match request.run with
      | .ok output => .success output
      | .error error => .failure error
  | help page => .success page.text
  | version => .success versionText
  | misuse error => .misuse error

end CommandLine

end TreeShapes
