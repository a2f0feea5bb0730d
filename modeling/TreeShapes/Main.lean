import TreeShapes.CommandLine.Run

open TreeShapes.CommandLine in
def main (arguments : List String) : IO UInt32 := do
  let completion := (read arguments).complete
  IO.print completion.output
  IO.eprint completion.errors
  return completion.exitCode
