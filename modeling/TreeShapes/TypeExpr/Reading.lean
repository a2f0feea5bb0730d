import TreeShapes.Config
import TreeShapes.TypeExpr.Basic

namespace TreeShapes
namespace TypeExpr

/-!
# Reading type expressions

The grammar is

    alternatives := atom ('|' atom)*
    atom         := (literal | '(' alternatives ')' | '<' alternatives '.' alternatives '>'
                      | fixed-list) ('[' ']')*
    fixed-list   := '[' ']' | '[' (alternatives ',')* (alternatives | '...') ']'

A state of the reader is a place inside one level of alternatives together with
the brackets that are open around it.  A left bracket means a fixed list where
an atom is due and a list suffix right after an atom; the place tells which.
-/

/-- An open bracket, with what has been read inside it. -/
inductive Bracket where
  /-- After `(`. -/
  | group
  /-- After `<`: the left child is being read. -/
  | left
  /-- After `<`, the left child and `.`: the right child is being read. -/
  | right (left : TypeExpr)
  /-- After `[` and some elements, each with its comma: one more is being read. -/
  | items (done : List TypeExpr)

/-- An open bracket and the members already read at the level around it. -/
structure Frame where
  bracket : Bracket
  outer : List Alternative

inductive Place where
  /-- An atom is due. -/
  | atom
  /-- A `[` was read where an atom was due. -/
  | listStart
  /-- Elements of a fixed list were read, and a comma after the last of them. -/
  | element (done : List TypeExpr)
  /-- Elements of a fixed list were read, and an ellipsis. -/
  | openEnd (done : List TypeExpr)
  /-- An atom was read. -/
  | after (atom : TypeExpr)
  /-- An atom was read, and `[` after it. -/
  | suffix (atom : TypeExpr)

/-- A state of the reader: the place, the members read before it at this level, and the open
brackets from the inside out. -/
structure State where
  place : Place
  members : List Alternative
  frames : List Frame

/-- The expression of a level whose last atom is `atom`. -/
def close (members : List Alternative) (atom : TypeExpr) : TypeExpr :=
  ofMembers (members ++ atom.members)

/-- What has to follow the alternatives inside a bracket. -/
def Bracket.expected : Bracket -> Expected
  | group => .ofMarks [.rparen]
  | left => .ofMarks [.dot]
  | right _ => .ofMarks [.rangle]
  | items _ => .ofMarks [.comma, .rbracket]

def beginAtom (members : List Alternative) (frames : List Frame) : Token -> Option State
  | .literal literal => some ⟨.after (leaf literal), members, frames⟩
  | .punct .langle => some ⟨.atom, [], ⟨.left, members⟩ :: frames⟩
  | .punct .lparen => some ⟨.atom, [], ⟨.group, members⟩ :: frames⟩
  | .punct .lbracket => some ⟨.listStart, members, frames⟩
  | .punct _ => none

/-- Exactly the tokens that terminate atoms cannot begin one. -/
theorem beginAtom_eq_none_iff {members : List Alternative} {frames : List Frame} {token : Token} :
    beginAtom members frames token = none <-> token.isAtomTerminator = true := by
  cases token with
  | literal literal => simp [beginAtom, Token.isAtomTerminator]
  | punct mark =>
      cases mark <;>
        simp [beginAtom, Token.isAtomTerminator, Punctuation.isOpening, Punctuation.category,
          Punctuation.isClosing]

/-- Begin an element of a fixed list, after the elements `done`. -/
def beginElement (members : List Alternative) (frames : List Frame) (done : List TypeExpr) :
    Token -> Option State
  | .punct .ellipsis => some ⟨.openEnd done, members, frames⟩
  | token => beginAtom [] (⟨.items done, members⟩ :: frames) token

/-- Follow the alternatives `inner`, read inside a bracket, with a separator or closing mark. -/
def leaveBracket (config : Config) (inner : TypeExpr) (frame : Frame) (frames : List Frame) :
    Token -> Option State
  | .punct mark =>
      match frame.bracket, mark with
      | .group, .rparen => some ⟨.after inner, frame.outer, frames⟩
      | .left, .dot => some ⟨.atom, [], ⟨.right inner, frame.outer⟩ :: frames⟩
      | .right left, .rangle => some ⟨.after (.tree left inner), frame.outer, frames⟩
      | .items done, .comma => some ⟨.element (done ++ [inner]), frame.outer, frames⟩
      | .items done, .rbracket =>
          some ⟨.after (fixedList (done ++ [inner]) (leaf config.listTerminator)),
            frame.outer, frames⟩
      | _, _ => none
  | .literal _ => none

/-- Follow an atom: with a list suffix, with another alternative, or out of the bracket. -/
def followAtom (config : Config) (members : List Alternative) (frames : List Frame)
    (atom : TypeExpr) : Token -> Option State
  | .punct .lbracket => some ⟨.suffix atom, members, frames⟩
  | .punct .bar => some ⟨.atom, members ++ atom.members, frames⟩
  | token =>
      match frames with
      | [] => none
      | frame :: outer => leaveBracket config (close members atom) frame outer token

def accept (config : Config) (state : State) (token : Token) : Option State :=
  match state.place, token with
  | .atom, token => beginAtom state.members state.frames token
  | .listStart, .punct .rbracket =>
      some ⟨.after (leaf config.listTerminator), state.members, state.frames⟩
  | .listStart, token => beginElement state.members state.frames [] token
  | .element done, token => beginElement state.members state.frames done token
  | .openEnd done, .punct .rbracket =>
      some ⟨.after (fixedList done (leaf config.openTail)), state.members, state.frames⟩
  | .openEnd _, _ => none
  | .after atom, token => followAtom config state.members state.frames atom token
  | .suffix atom, .punct .rbracket => some ⟨.after (.list atom), state.members, state.frames⟩
  | .suffix _, _ => none

/-- What a state still asks for.  Only an atom outside all brackets completes an expression. -/
def demand (state : State) : Demand TypeExpr :=
  match state.place with
  | .atom | .listStart | .element _ => .token none
  | .openEnd _ | .suffix _ => .token (some (.ofMarks [.rbracket]))
  | .after atom =>
      match state.frames with
      | [] => .complete (close state.members atom)
      | frame :: _ => .token (some frame.bracket.expected)

def reader (config : Config) : Reader State TypeExpr where
  start := ⟨.atom, [], []⟩
  accept := accept config
  demand := demand

/-- Read the longest expression at the beginning of the tokens, whatever follows it. -/
def readLongest (config : Config) (tokens : List Token) : Reading TypeExpr :=
  (reader config).read tokens

/-- Read the next expression of a token list that is not known to be its beginning. -/
def readNext (config : Config) (tokens : List Token) : Reading TypeExpr :=
  (readLongest config tokens).settle config.trailing

/-- Read one expression.  An empty input stands for the configured literal. -/
def read (config : Config) (tokens : List Token) : Reading TypeExpr :=
  match tokens with
  | [] => ⟨.ok (leaf config.emptyInput), []⟩
  | _ => readNext config tokens

def parse (config : Config) (tokens : List Token) : Except ParseError TypeExpr :=
  (read config tokens).result

end TypeExpr
end TreeShapes
