namespace TreeShapes

/-!
# Punctuation

The structural marks of the token vocabulary.  The list `Punctuation.all` fixes
their order once; spellings are looked up in that list, so a mark and its
spelling determine each other (`Punctuation.ofSpelling?_eq_some_iff`).
-/

/-- The eleven structural marks. -/
inductive Punctuation where
  | bar
  | comma
  | dot
  | ellipsis
  | colon
  | lbracket
  | rbracket
  | lparen
  | rparen
  | langle
  | rangle
deriving DecidableEq

namespace Punctuation

/-- What a mark is for: it divides, it stands for something, or it encloses. -/
inductive Category where
  | separator
  | marker
  | delimiter
deriving DecidableEq

/-- Every mark, in the order of the vocabulary. -/
def all : List Punctuation :=
  [bar, comma, dot, ellipsis, colon, lbracket, rbracket, lparen, rparen, langle, rangle]

def spelling : Punctuation -> String
  | bar => "|"
  | comma => ","
  | dot => "."
  | ellipsis => "..."
  | colon => ":"
  | lbracket => "["
  | rbracket => "]"
  | lparen => "("
  | rparen => ")"
  | langle => "<"
  | rangle => ">"

def category : Punctuation -> Category
  | bar | comma | dot => .separator
  | ellipsis | colon => .marker
  | lbracket | rbracket | lparen | rparen | langle | rangle => .delimiter

/-- The delimiters that end a bracketed section. -/
def isClosing : Punctuation -> Bool
  | rbracket | rparen | rangle => true
  | _ => false

/-- The delimiters that begin a bracketed section. -/
def isOpening (mark : Punctuation) : Bool :=
  mark.category == .delimiter && !mark.isClosing

def ofSpelling? (text : String) : Option Punctuation :=
  all.find? fun mark => mark.spelling == text

/-- A mark is found under its own spelling and under no other text. -/
theorem ofSpelling?_eq_some_iff {text : String} {mark : Punctuation} :
    ofSpelling? text = some mark <-> text = mark.spelling := by
  constructor
  · intro found
    unfold ofSpelling? at found
    have matched := List.find?_some found
    exact (beq_iff_eq.mp matched).symm
  · rintro rfl
    cases mark <;> decide

theorem ofSpelling?_spelling (mark : Punctuation) :
    ofSpelling? mark.spelling = some mark :=
  ofSpelling?_eq_some_iff.mpr rfl

theorem ofSpelling?_eq_none_iff {text : String} :
    ofSpelling? text = none <-> forall mark : Punctuation, text ≠ mark.spelling := by
  constructor
  · intro absent mark same
    rw [ofSpelling?_eq_some_iff.mpr same] at absent
    cases absent
  · intro different
    cases found : ofSpelling? text with
    | none => rfl
    | some mark => exact absurd (ofSpelling?_eq_some_iff.mp found) (different mark)

end Punctuation

end TreeShapes
