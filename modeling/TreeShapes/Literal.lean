namespace TreeShapes

/-!
# Literals

A literal is a name or a whole number of 64 bits.  Readers of type expressions
never look inside one; readers of trees give some of them a value.
-/

/-- A leaf value: a name, or an unsigned number of 64 bits. -/
inductive Literal where
  | name (text : String)
  | int (value : UInt64)
deriving DecidableEq

namespace Literal

/-- Whether the literal is the name `text`; a number is no name, however it is written. -/
def isName (literal : Literal) (text : String) : Bool :=
  match literal with
  | name own => own == text
  | int _ => false

/-- A name stands for itself, a number is written in decimal without leading zeros. -/
def text : Literal -> String
  | name own => own
  | int value => value.toNat.repr

/-! ## Reserved spellings -/

/-- The name of the literal that matches everything. -/
def anySpelling : String := "any"

/-- The name of the empty tree. -/
def nilSpelling : String := "nil"

/-- The name of the tree with two empty children. -/
def trueSpelling : String := "true"

/-- A second name of the empty tree. -/
def falseSpelling : String := "false"

/-- The reserved spellings, in the order of the vocabulary. -/
def reserved : List String :=
  [anySpelling, nilSpelling, trueSpelling, falseSpelling]

end Literal

end TreeShapes
