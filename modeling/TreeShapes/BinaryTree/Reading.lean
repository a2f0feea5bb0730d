import TreeShapes.BinaryTree.Basic
import TreeShapes.Reader

namespace TreeShapes
namespace BinaryTree

/-!
# Reading tree literals

The grammar is

    tree := literal | '<' tree '.' tree '>' | '[' ']' | '[' tree (',' tree)* ']'

where a literal must have a value as a tree.  A state of the reader is a place
together with the brackets that are open around it; every token has to be used.
-/

/-- An open bracket, with what has been read inside it. -/
inductive Bracket where
  /-- After `<`: the left child is being read. -/
  | left
  /-- After `<`, the left child and `.`: the right child is being read. -/
  | right (left : BinaryTree)
  /-- After `[` and some items, each with its comma: one more is being read. -/
  | items (done : List BinaryTree)

inductive Place where
  /-- A tree is due. -/
  | due
  /-- A `[` was read. -/
  | listStart
  /-- A tree was read. -/
  | after (tree : BinaryTree)

/-- A state of the reader: the place and the open brackets from the inside out. -/
structure State where
  place : Place
  brackets : List Bracket

/-- What has to follow the tree inside a bracket. -/
def Bracket.expected : Bracket -> Expected
  | left => .ofMarks [.dot]
  | right _ => .ofMarks [.rangle]
  | items _ => .ofMarks [.comma, .rbracket]

def beginTree (brackets : List Bracket) : Token -> Option State
  | .literal literal => literal.tree?.map fun tree => ⟨.after tree, brackets⟩
  | .punct .langle => some ⟨.due, .left :: brackets⟩
  | .punct .lbracket => some ⟨.listStart, brackets⟩
  | .punct _ => none

/-- Follow the tree `inner`, read inside a bracket, with a separator or closing mark. -/
def leaveBracket (inner : BinaryTree) (bracket : Bracket) (brackets : List Bracket) :
    Token -> Option State
  | .punct mark =>
      match bracket, mark with
      | .left, .dot => some ⟨.due, .right inner :: brackets⟩
      | .right left, .rangle => some ⟨.after (.node left inner), brackets⟩
      | .items done, .comma => some ⟨.due, .items (done ++ [inner]) :: brackets⟩
      | .items done, .rbracket => some ⟨.after (ofList (done ++ [inner])), brackets⟩
      | _, _ => none
  | .literal _ => none

def accept (state : State) (token : Token) : Option State :=
  match state.place, token with
  | .due, token => beginTree state.brackets token
  | .listStart, .punct .rbracket => some ⟨.after .nil, state.brackets⟩
  | .listStart, token => beginTree (.items [] :: state.brackets) token
  | .after tree, token =>
      match state.brackets with
      | [] => none
      | bracket :: outer => leaveBracket tree bracket outer token

/-- What a state still asks for.  Only a tree outside all brackets completes the literal. -/
def demand (state : State) : Demand BinaryTree :=
  match state.place with
  | .due | .listStart => .token none
  | .after tree =>
      match state.brackets with
      | [] => .complete tree
      | bracket :: _ => .token (some bracket.expected)

def reader : Reader State BinaryTree where
  start := ⟨.due, []⟩
  accept := accept
  demand := demand

/-- Read one tree.  An empty input stands for the empty tree, and tokens after a complete tree are
an error. -/
def read (tokens : List Token) : Reading BinaryTree :=
  match tokens with
  | [] => ⟨.ok .nil, []⟩
  | _ => (reader.read tokens).settle .reject

def parse (tokens : List Token) : Except ParseError BinaryTree :=
  (read tokens).result

end BinaryTree
end TreeShapes
