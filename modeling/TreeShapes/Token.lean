import TreeShapes.Literal
import TreeShapes.Punctuation

namespace TreeShapes

/-!
# Tokens

A token is a mark or a literal.  `Token.classify` decides which one a spelling
is, `Token.text` writes a token again.  A spelling is never split: `int[]` is
one name.
-/

/-- One unit of input: a structural mark or a literal. -/
inductive Token where
  | punct (mark : Punctuation)
  | literal (value : Literal)
deriving DecidableEq

namespace Token

/-- The name token `text`, whatever the text spells. -/
def name (text : String) : Token :=
  .literal (.name text)

def int (value : UInt64) : Token :=
  .literal (.int value)

def punctuation? : Token -> Option Punctuation
  | punct mark => some mark
  | literal _ => none

def literal? : Token -> Option Literal
  | punct _ => none
  | literal value => some value

def text : Token -> String
  | punct mark => mark.spelling
  | literal value => value.text

/-- Separators, markers and closing delimiters never begin an atom. -/
def isAtomTerminator : Token -> Bool
  | punct mark => !mark.isOpening
  | literal _ => false

/-! ## Classifying spellings -/

/-- A whole number is written with at least one digit and nothing else. -/
def isNumeral (spelling : String) : Bool :=
  !spelling.toList.isEmpty && spelling.toList.all Char.isDigit

/-- The decimal value of a run of digits; leading zeros do not count. -/
def numeralValue (spelling : String) : Nat :=
  Nat.ofDigitChars 10 spelling.toList 0

/-- The number a spelling denotes, provided it is a numeral whose value fits 64 bits. -/
def numeral? (spelling : String) : Option UInt64 :=
  if isNumeral spelling && numeralValue spelling < UInt64.size then
    some (UInt64.ofNat (numeralValue spelling))
  else
    none

/-- Classify one spelling: a mark if it spells one, a number if it is a numeral that fits, and a
name otherwise. -/
def classify (spelling : String) : Token :=
  match Punctuation.ofSpelling? spelling with
  | some mark => .punct mark
  | none =>
      match numeral? spelling with
      | some value => int value
      | none => name spelling

theorem classify_spelling (mark : Punctuation) :
    classify mark.spelling = .punct mark := by
  simp [classify, Punctuation.ofSpelling?_spelling]

theorem classify_eq_punct_iff {spelling : String} {mark : Punctuation} :
    classify spelling = .punct mark <-> spelling = mark.spelling := by
  constructor
  · intro classified
    unfold classify at classified
    split at classified
    · next found =>
        cases classified
        exact Punctuation.ofSpelling?_eq_some_iff.mp found
    · split at classified <;> cases classified
  · rintro rfl
    exact classify_spelling mark

end Token

end TreeShapes
