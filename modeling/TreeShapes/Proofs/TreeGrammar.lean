import TreeShapes.BinaryTree.Grammar
import TreeShapes.BinaryTree.Reading
import TreeShapes.Proofs.StoppingPoints

namespace TreeShapes

/-!
# The reader of tree literals reads their grammar

The table that gives literals a value agrees with the relation `Denotes`, and
the reader agrees with the relation `Spells`.  A derivation takes the reader
from where a tree is due to the place behind that tree, whatever is open around
it; in the other direction `SpellsState` says what the consumed tokens spell,
and every accepted token keeps it.  A complete literal accepts no further
token, so no accepted list is a proper beginning of another.
-/

/-! ## The values of literals -/

namespace ProgramAtom

/-- A keyword is looked up under its spelling: the table has no spelling twice. -/
theorem valueOf?_eq_some_iff {spelling : String} {value : UInt64} :
    valueOf? spelling = some value <-> ⟨spelling, value⟩ ∈ all := by
  constructor
  · intro found
    rcases Option.map_eq_some_iff.mp found with ⟨atom, matched, rfl⟩
    have same := List.find?_some matched
    rw [← beq_iff_eq.mp same]
    exact List.mem_of_find?_eq_some matched
  · intro listed
    have everyAtom : forall atom, atom ∈ all -> valueOf? atom.spelling = some atom.value := by
      decide
    exact everyAtom ⟨spelling, value⟩ listed

theorem value_le_maxNumber {atom : ProgramAtom} (listed : atom ∈ all) :
    atom.value <= BinaryTree.maxNumber := by
  revert atom
  decide

theorem spelling_not_reserved {atom : ProgramAtom} (listed : atom ∈ all) :
    atom.spelling ∉ Literal.reserved := by
  revert atom
  decide

end ProgramAtom

namespace BinaryTree

theorem ofNumber_eq_ofList (count : Nat) : ofNumber count = ofList (List.replicate count nil) := by
  induction count with
  | zero => rfl
  | succ count inductionHypothesis =>
      rw [List.replicate_succ]
      change node nil (ofNumber count) = node nil (ofList (List.replicate count nil))
      rw [inductionHypothesis]

theorem ofLimited?_eq_some_iff {value : UInt64} {tree : BinaryTree} :
    ofLimited? value = some tree <->
      value <= maxNumber ∧ tree = ofList (List.replicate value.toNat nil) := by
  unfold ofLimited?
  split
  · next limited => simp [limited, ofNumber_eq_ofList, eq_comm]
  · next unlimited => simp [unlimited]

end BinaryTree

namespace Literal

/-- A name that is none of the three reserved ones has the value of its keyword. -/
theorem tree?_name {spelling : String} (notNil : spelling ≠ nilSpelling)
    (notFalse : spelling ≠ falseSpelling) (notTrue : spelling ≠ trueSpelling) :
    (Literal.name spelling).tree? =
      (ProgramAtom.valueOf? spelling).bind BinaryTree.ofLimited? := by
  simp [tree?, isName, notNil, notFalse, notTrue]

theorem Denotes.tree?_eq {literal : Literal} {tree : BinaryTree} (denoted : literal.Denotes tree) :
    literal.tree? = some tree := by
  cases denoted with
  | nil => rfl
  | falsity => rfl
  | truth => rfl
  | number limited => exact BinaryTree.ofLimited?_eq_some_iff.mpr ⟨limited, rfl⟩
  | programAtom listed =>
      have free := ProgramAtom.spelling_not_reserved listed
      simp only [reserved, List.mem_cons, not_or] at free
      rw [tree?_name free.2.1 free.2.2.2.1 free.2.2.1,
        ProgramAtom.valueOf?_eq_some_iff.mpr listed, Option.bind_some]
      exact BinaryTree.ofLimited?_eq_some_iff.mpr ⟨ProgramAtom.value_le_maxNumber listed, rfl⟩

theorem tree?_eq_some_iff {literal : Literal} {tree : BinaryTree} :
    literal.tree? = some tree <-> literal.Denotes tree := by
  constructor
  · intro valued
    cases literal with
    | int value =>
        rcases BinaryTree.ofLimited?_eq_some_iff.mp valued with ⟨limited, rfl⟩
        exact .number limited
    | name spelling =>
        by_cases isNil : spelling = nilSpelling
        · subst isNil
          cases valued
          exact .nil
        by_cases isFalse : spelling = falseSpelling
        · subst isFalse
          cases valued
          exact .falsity
        by_cases isTrue : spelling = trueSpelling
        · subst isTrue
          cases valued
          exact .truth
        rw [tree?_name isNil isFalse isTrue, Option.bind_eq_some_iff] at valued
        rcases valued with ⟨value, found, limited⟩
        rcases BinaryTree.ofLimited?_eq_some_iff.mp limited with ⟨_, rfl⟩
        exact .programAtom (ProgramAtom.valueOf?_eq_some_iff.mp found)
  · exact Denotes.tree?_eq

end Literal

namespace BinaryTree

/-! ## Derivations drive the reader -/

theorem accept_listStart_of_ne {brackets : List Bracket} {token : Token}
    (different : token ≠ .punct .rbracket) :
    accept ⟨.listStart, brackets⟩ token = beginTree (.items [] :: brackets) token := by
  cases token with
  | literal literal => rfl
  | punct mark =>
      cases mark with
      | rbracket => exact absurd rfl different
      | _ => rfl

/-- The first item of a list begins like any tree: what begins a tree is no right bracket. -/
theorem advance?_listStart {brackets : List Bracket} {tokens : List Token} {tree : BinaryTree}
    {opened : List Bracket}
    (reached : reader.advance? ⟨.due, .items [] :: brackets⟩ tokens =
      some ⟨.after tree, opened⟩) :
    reader.advance? ⟨.listStart, brackets⟩ tokens = some ⟨.after tree, opened⟩ := by
  cases tokens with
  | nil => cases reached
  | cons token tokens =>
      have different : token ≠ .punct .rbracket := by
        rintro rfl
        cases reached
      have same : reader.accept ⟨.listStart, brackets⟩ token =
          reader.accept ⟨.due, .items [] :: brackets⟩ token := accept_listStart_of_ne different
      rw [Reader.advance?, same]
      exact reached

mutual

/-- A spelled tree takes the reader from where a tree is due to the place behind it. -/
theorem Spells.advance?_eq :
    forall {tokens : List Token} {tree : BinaryTree}, Spells tokens tree ->
      forall brackets : List Bracket,
        reader.advance? ⟨.due, brackets⟩ tokens = some ⟨.after tree, brackets⟩
  | _, _, .literal denoted, brackets => by
      simp only [Reader.advance?, reader, accept, beginTree, denoted.tree?_eq, Option.map_some,
        Option.bind_some]
  | _, _, @Spells.node _ _ leftTree _ left right, brackets => by
      change reader.advance? ⟨.due, .left :: brackets⟩ (_ ++ _ :: _) = _
      rw [Reader.advance?_append_of_eq _ (left.advance?_eq (.left :: brackets))]
      change reader.advance? ⟨.due, .right leftTree :: brackets⟩ (_ ++ [_]) = _
      rw [Reader.advance?_append_of_eq _ (right.advance?_eq (.right leftTree :: brackets))]
      rfl
  | _, _, .emptyList, brackets => rfl
  | _, _, .list items, brackets => by
      rcases items.advance?_eq brackets with ⟨before, last, rfl, reached⟩
      change reader.advance? ⟨.listStart, brackets⟩ (_ ++ [_]) = _
      rw [Reader.advance?_append_of_eq _ (advance?_listStart reached)]
      rfl

/-- Spelled items take the reader behind the last of them, with the others put aside. -/
theorem SpellsItems.advance?_eq :
    forall {tokens : List Token} {items : List BinaryTree}, SpellsItems tokens items ->
      forall brackets : List Bracket, exists before last, items = before ++ [last] ∧
        reader.advance? ⟨.due, .items [] :: brackets⟩ tokens =
          some ⟨.after last, .items before :: brackets⟩
  | _, _, .single spelled, brackets => ⟨[], _, rfl, spelled.advance?_eq (.items [] :: brackets)⟩
  | _, _, .comma earlier spelled, brackets => by
      rcases earlier.advance?_eq brackets with ⟨before, item, rfl, reached⟩
      refine ⟨before ++ [item], _, rfl, ?_⟩
      rw [Reader.advance?_append_of_eq _ reached]
      exact spelled.advance?_eq (.items (before ++ [item]) :: brackets)

end

/-! ## What the consumed tokens spell -/

/-- The tokens that lead from the beginning of a tree to a place. -/
inductive SpellsPlace : List Token -> Place -> Prop
  | due : SpellsPlace [] .due
  | listStart : SpellsPlace [.punct .lbracket] .listStart
  | after {tokens : List Token} {tree : BinaryTree} (spelled : Spells tokens tree) :
      SpellsPlace tokens (.after tree)

/-- The tokens of an open bracket, up to where its last tree begins. -/
inductive SpellsBracket : List Token -> Bracket -> Prop
  | left : SpellsBracket [.punct .langle] .left
  | right {tokens : List Token} {left : BinaryTree} (spelled : Spells tokens left) :
      SpellsBracket (.punct .langle :: (tokens ++ [.punct .dot])) (.right left)
  | firstItem : SpellsBracket [.punct .lbracket] (.items [])
  | nextItem {tokens : List Token} {done : List BinaryTree} (earlier : SpellsItems tokens done) :
      SpellsBracket (.punct .lbracket :: (tokens ++ [.punct .comma])) (.items done)

/-- The tokens of all open brackets, from the outside in. -/
inductive SpellsBrackets : List Token -> List Bracket -> Prop
  | none : SpellsBrackets [] []
  | bracket {tokens bracketTokens : List Token} {brackets : List Bracket} {bracket : Bracket}
      (around : SpellsBrackets tokens brackets) (opened : SpellsBracket bracketTokens bracket) :
      SpellsBrackets (tokens ++ bracketTokens) (bracket :: brackets)

/-- The consumed tokens spell what a state remembers. -/
def SpellsState (tokens : List Token) (state : State) : Prop :=
  exists around here, tokens = around ++ here ∧
    SpellsBrackets around state.brackets ∧ SpellsPlace here state.place

/-- The items put aside and the one read last are the items of the list so far. -/
theorem SpellsBracket.spellsItems {opening here : List Token} {done : List BinaryTree}
    {tree : BinaryTree} (opened : SpellsBracket opening (.items done))
    (spelled : Spells here tree) :
    exists tokens, opening ++ here = .punct .lbracket :: tokens ∧
      SpellsItems tokens (done ++ [tree]) := by
  cases opened with
  | firstItem => exact ⟨here, rfl, .single spelled⟩
  | nextItem earlier => exact ⟨_, by simp, .comma earlier spelled⟩

section Steps

variable {around : List Token} {brackets : List Bracket} {token : Token} {next : State}

theorem spellsState_beginTree (outside : SpellsBrackets around brackets)
    (begun : beginTree brackets token = some next) : SpellsState (around ++ [token]) next := by
  cases token with
  | literal literal =>
      rcases Option.map_eq_some_iff.mp begun with ⟨tree, valued, rfl⟩
      exact ⟨_, _, rfl, outside, .after (.literal (Literal.tree?_eq_some_iff.mp valued))⟩
  | punct mark =>
      cases mark with
      | lbracket =>
          cases begun
          exact ⟨_, _, rfl, outside, .listStart⟩
      | langle =>
          cases begun
          exact ⟨_, _, by simp, .bracket outside .left, .due⟩
      | _ => cases begun

theorem spellsState_leaveBracket {opening here : List Token} {bracket : Bracket}
    {tree : BinaryTree} (outside : SpellsBrackets around brackets)
    (opened : SpellsBracket opening bracket) (spelled : Spells here tree)
    (left : leaveBracket tree bracket brackets token = some next) :
    SpellsState (around ++ (opening ++ (here ++ [token]))) next := by
  cases token with
  | literal literal => cases left
  | punct mark =>
      cases bracket with
      | left =>
          cases opened
          cases mark with
          | dot =>
              cases left
              exact ⟨_, _, by simp, .bracket outside (.right spelled), .due⟩
          | _ => cases left
      | right child =>
          cases opened with
          | right childSpelled =>
              cases mark with
              | rangle =>
                  cases left
                  exact ⟨_, _, by simp, outside, .after (.node childSpelled spelled)⟩
              | _ => cases left
      | items done =>
          rcases opened.spellsItems spelled with ⟨tokens, same, items⟩
          rw [← List.append_assoc opening, same]
          cases mark with
          | comma =>
              cases left
              exact ⟨_, _, by simp, .bracket outside (.nextItem items), .due⟩
          | rbracket =>
              cases left
              exact ⟨_, _, by simp, outside, .after (.list items)⟩
          | _ => cases left

theorem SpellsState.accept {consumed : List Token} {state : State}
    (spelled : SpellsState consumed state) (accepted : accept state token = some next) :
    SpellsState (consumed ++ [token]) next := by
  rcases state with ⟨place, brackets⟩
  rcases spelled with ⟨around, here, rfl, outside, place⟩
  rw [List.append_assoc]
  cases place with
  | due => exact spellsState_beginTree outside accepted
  | listStart =>
      by_cases closing : token = .punct .rbracket
      · subst token
        cases accepted
        exact ⟨_, _, rfl, outside, .after .emptyList⟩
      · rw [accept_listStart_of_ne closing] at accepted
        have inside := spellsState_beginTree (.bracket outside .firstItem) accepted
        rw [List.append_assoc] at inside
        exact inside
  | after tree =>
      cases outside with
      | none => cases accepted
      | bracket outside opened =>
          have left := spellsState_leaveBracket outside opened tree accepted
          rw [List.append_assoc]
          exact left

end Steps

/-! ## The language of the reader -/

/-- Whatever the reader can walk through spells the state that it leads to. -/
theorem spellsState_of_advance? {tokens : List Token} {state : State}
    (reached : reader.advance? reader.start tokens = some state) : SpellsState tokens state := by
  have begins : SpellsState [] reader.start := ⟨[], [], rfl, .none, .due⟩
  exact reader.advance?_invariant SpellsState.accept begins reached

theorem demand_eq_complete_iff {state : State} {tree : BinaryTree} :
    demand state = .complete tree <-> state = ⟨.after tree, []⟩ := by
  constructor
  · rcases state with ⟨place, brackets⟩
    intro complete
    cases place with
    | after own =>
        cases brackets with
        | nil =>
            cases complete
            rfl
        | cons bracket brackets => cases complete
    | _ => cases complete
  · rintro rfl
    rfl

theorem accepts_iff_spells {tokens : List Token} {tree : BinaryTree} :
    reader.Accepts tokens tree <-> Spells tokens tree := by
  constructor
  · rintro ⟨last, reached, complete⟩
    obtain rfl := demand_eq_complete_iff.mp complete
    rcases spellsState_of_advance? reached with ⟨around, here, rfl, outside, place⟩
    cases outside
    cases place with
    | after spelled => exact spelled
  · intro spelled
    exact ⟨_, spelled.advance?_eq [], rfl⟩

theorem Spells.ne_nil {tokens : List Token} {tree : BinaryTree} (spelled : Spells tokens tree) :
    tokens ≠ [] := by
  rintro rfl
  cases spelled.advance?_eq []

theorem accept_eq_none_of_complete {state : State} {tree : BinaryTree}
    (complete : demand state = .complete tree) (token : Token) : accept state token = none := by
  obtain rfl := demand_eq_complete_iff.mp complete
  rfl

theorem read_of_ne_nil {tokens : List Token} (nonempty : tokens ≠ []) :
    read tokens = (reader.read tokens).settle .reject := by
  cases tokens with
  | nil => exact absurd rfl nonempty
  | cons token tokens => rfl

theorem parse_eq_ok_iff_of_ne_nil {tokens : List Token} (nonempty : tokens ≠ [])
    {tree : BinaryTree} : parse tokens = .ok tree <-> Spells tokens tree := by
  rw [parse, read_of_ne_nil nonempty, Reading.result_eq_iff, ← accepts_iff_spells]
  constructor
  · rintro ⟨rest, whole⟩
    exact (reader.settle_reject_read_eq_ok_iff.mp whole).1
  · intro accepts
    exact ⟨[], reader.settle_reject_read_eq_ok_iff.mpr ⟨accepts, rfl⟩⟩

/-- Reading a tree literal is deciding its grammar, with the tree that the grammar gives; only the
empty input is read as the empty tree without being spelled.  An accepted nonempty list properly
begins no other accepted list. -/
theorem parse_eq_ok_iff_spells (tokens : List Token) :
    (forall tree, parse tokens = .ok tree <->
      (tokens = [] ∧ tree = .nil) ∨ Spells tokens tree) ∧
    (forall tree longer other, tokens ≠ [] -> parse tokens = .ok tree ->
      parse longer = .ok other -> tokens <+: longer -> tokens = longer) := by
  constructor
  · intro tree
    by_cases empty : tokens = []
    · subst tokens
      constructor
      · intro finished
        cases finished
        exact Or.inl ⟨rfl, rfl⟩
      · rintro (⟨_, rfl⟩ | spelled)
        · rfl
        · exact absurd rfl spelled.ne_nil
    · rw [parse_eq_ok_iff_of_ne_nil empty]
      simp only [empty, false_and, false_or]
  · rintro tree longer other nonempty finished longerFinished ⟨more, rfl⟩
    rw [parse_eq_ok_iff_of_ne_nil nonempty, ← accepts_iff_spells] at finished
    rw [parse_eq_ok_iff_of_ne_nil (List.append_ne_nil_of_left_ne_nil nonempty more),
      ← accepts_iff_spells] at longerFinished
    have nothing := reader.eq_nil_of_accepts_append accept_eq_none_of_complete finished
      longerFinished
    rw [nothing, List.append_nil]

/-- A keyword spelled with marks is one token, and the items of a list keep their order. -/
theorem parse_list_of_keyword_and_node :
    parse [.punct .lbracket, Token.name "@:=", .punct .comma, .punct .langle, Token.name "true",
        .punct .dot, Token.int 0, .punct .rangle, .punct .rbracket] =
      .ok (.node (.node .nil (.node .nil .nil)) (.node (.node (.node .nil .nil) .nil) .nil)) := by
  have assignment : Literal.Denotes (.name "@:=") (.node .nil (.node .nil .nil)) :=
    Literal.tree?_eq_some_iff.mp rfl
  have zero : Literal.Denotes (.int 0) .nil := Literal.tree?_eq_some_iff.mp rfl
  have keyword := Spells.literal assignment
  have pair := Spells.node (.literal .truth) (.literal zero)
  exact ((parse_eq_ok_iff_spells _).1 _).mpr (Or.inr (.list (.comma (.single keyword) pair)))

end BinaryTree
end TreeShapes
