namespace TreeShapes

/-!
# Program atoms

Programs written as trees use numbers for their keywords.  A program atom is a
keyword with a leading `@` that stands for its number, so that an encoded
program stays readable.
-/

/-- A keyword of a program written as data, with the number that encodes it. -/
structure ProgramAtom where
  spelling : String
  value : UInt64
deriving DecidableEq

namespace ProgramAtom

/-- The keywords, in the order of the vocabulary.  Assignment has two spellings. -/
def all : List ProgramAtom :=
  [⟨"@asgn", 2⟩, ⟨"@:=", 2⟩, ⟨"@doAsgn", 3⟩, ⟨"@while", 5⟩, ⟨"@doWhile", 7⟩,
    ⟨"@if", 11⟩, ⟨"@doIf", 13⟩, ⟨"@var", 17⟩, ⟨"@quote", 19⟩, ⟨"@hd", 23⟩,
    ⟨"@doHd", 29⟩, ⟨"@tl", 31⟩, ⟨"@doTl", 37⟩, ⟨"@cons", 41⟩, ⟨"@doCons", 43⟩]

def valueOf? (spelling : String) : Option UInt64 :=
  (all.find? fun atom => atom.spelling == spelling).map value

end ProgramAtom

end TreeShapes
