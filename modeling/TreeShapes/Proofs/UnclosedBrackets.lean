import TreeShapes.Proofs.TreeGrammar
import TreeShapes.Proofs.TypeGrammar

namespace TreeShapes

/-!
# Inputs that end too early leave a bracket open

An error at the end of the input advises that not every bracket was closed.
Both readers remember how many brackets are open, and every accepted token moves
that number by what the token opens or closes.  Along every walk the brackets
opened are therefore the brackets closed and the brackets still open.

A tree literal that ends too early always ends inside a bracket.  So does a type
expression, with one exception: a bar asks for an atom wherever it stands, also
outside all brackets.  Behind a complete expression and a bar the input ends too
early with every bracket closed, and the advice is mistaken.
-/

/-! ## Counting brackets -/

def Token.opensBracket : Token -> Bool
  | punct mark => mark.isOpening
  | literal _ => false

def Token.closesBracket : Token -> Bool
  | punct mark => mark.isClosing
  | literal _ => false

def openings (tokens : List Token) : Nat :=
  tokens.countP Token.opensBracket

def closings (tokens : List Token) : Nat :=
  tokens.countP Token.closesBracket

theorem openings_append (tokens more : List Token) :
    openings (tokens ++ more) = openings tokens + openings more :=
  List.countP_append

theorem closings_append (tokens more : List Token) :
    closings (tokens ++ more) = closings tokens + closings more :=
  List.countP_append

@[simp] theorem openings_literal (literal : Literal) : openings [.literal literal] = 0 := rfl

@[simp] theorem closings_literal (literal : Literal) : closings [.literal literal] = 0 := rfl

@[simp] theorem openings_punct (mark : Punctuation) :
    openings [.punct mark] = mark.isOpening.toNat := by
  cases mark <;> rfl

@[simp] theorem closings_punct (mark : Punctuation) :
    closings [.punct mark] = mark.isClosing.toNat := by
  cases mark <;> rfl

namespace Reader

variable {σ α : Type} {reader : Reader σ α}

/-- The states of the reader know how many brackets are open. -/
structure CountsBrackets (reader : Reader σ α) (depth : σ -> Nat) : Prop where
  start : depth reader.start = 0
  accept : forall {state token next}, reader.accept state token = some next ->
    depth next + closings [token] = depth state + openings [token]

/-- Every opened bracket was closed on the way or is open in the state reached. -/
theorem CountsBrackets.openings_eq {depth : σ -> Nat} (counts : reader.CountsBrackets depth)
    {tokens : List Token} {last : σ}
    (reached : reader.advance? reader.start tokens = some last) :
    openings tokens = closings tokens + depth last := by
  let Balanced (consumed : List Token) (state : σ) : Prop :=
    openings consumed = closings consumed + depth state
  have begins : Balanced [] reader.start := by
    change 0 = 0 + depth reader.start
    rw [counts.start]
  have step : forall {consumed state token next}, Balanced consumed state ->
      reader.accept state token = some next -> Balanced (consumed ++ [token]) next := by
    intro consumed state token next balanced accepted
    have moved := counts.accept accepted
    change openings (consumed ++ [token]) = closings (consumed ++ [token]) + depth next
    rw [openings_append, closings_append, balanced]
    omega
  exact reader.advance?_invariant step begins reached

theorem exists_state_of_unexpectedEnd {trailing : Trailing} {tokens : List Token}
    {expected : Option Expected}
    (failed : ((reader.read tokens).settle trailing).result = .error (.unexpectedEnd expected)) :
    exists last, reader.advance? reader.start tokens = some last ∧
      reader.demand last = .token expected := by
  rcases Reading.result_eq_iff.mp failed with ⟨rest, whole⟩
  have ended : reader.read tokens = ⟨.error (.unexpectedEnd expected), rest⟩ := by
    cases trailing with
    | ignore => exact whole
    | reject => exact Reading.settle_reject_eq_unexpectedEnd_iff.mp whole
  exact (reader.run_eq_unexpectedEnd_iff.mp ended).2

end Reader

/-! ## Type expressions -/

namespace TypeExpr

/-- How many brackets a place itself keeps open. -/
def Place.depth : Place -> Nat
  | atom => 0
  | listStart => 1
  | element _ => 1
  | openEnd _ => 1
  | after _ => 0
  | suffix _ => 1

/-- How many brackets are open in a state. -/
def State.depth (state : State) : Nat :=
  state.frames.length + state.place.depth

section Steps

variable {config : Config} {members : List Alternative} {frames : List Frame} {token : Token}
  {next : State}

theorem depth_beginAtom (begun : beginAtom members frames token = some next) :
    next.depth + closings [token] = frames.length + openings [token] := by
  cases token with
  | literal literal =>
      cases begun
      simp [State.depth, Place.depth]
  | punct mark =>
      cases mark <;> cases begun <;>
        simp [State.depth, Place.depth, Punctuation.isOpening, Punctuation.category,
          Punctuation.isClosing]

/-- The list that an element belongs to counts before the element begins, and as a frame around the
element behind that. -/
theorem depth_beginElement {done : List TypeExpr}
    (begun : beginElement members frames done token = some next) :
    next.depth + closings [token] = frames.length + 1 + openings [token] := by
  by_cases ellipsis : token = .punct .ellipsis
  · subst token
    cases begun
    rfl
  · have begins : beginAtom [] (⟨.items done, members⟩ :: frames) token = some next := by
      rw [← begun, beginElement]
      exact ellipsis
    exact depth_beginAtom begins

theorem depth_leaveBracket {inner : TypeExpr} {frame : Frame}
    (left : leaveBracket config inner frame frames token = some next) :
    next.depth + closings [token] = frames.length + 1 + openings [token] := by
  rcases frame with ⟨bracket, outer⟩
  cases token with
  | literal literal => cases left
  | punct mark =>
      cases bracket <;> cases mark <;> cases left <;>
        simp [State.depth, Place.depth, Punctuation.isOpening, Punctuation.category,
          Punctuation.isClosing]

theorem depth_followAtom {atom : TypeExpr}
    (followed : followAtom config members frames atom token = some next) :
    next.depth + closings [token] = frames.length + openings [token] := by
  by_cases suffix : token = .punct .lbracket
  · subst token
    cases followed
    rfl
  by_cases bar : token = .punct .bar
  · subst token
    cases followed
    rfl
  cases frames with
  | nil =>
      rw [followAtom_nil_of_ne suffix bar] at followed
      cases followed
  | cons frame frames =>
      rw [followAtom_cons_of_ne suffix bar] at followed
      exact depth_leaveBracket followed

/-- Every accepted token moves the depth by what it opens or closes. -/
theorem depth_accept {state : State} (accepted : accept config state token = some next) :
    next.depth + closings [token] = state.depth + openings [token] := by
  rcases state with ⟨place, members, frames⟩
  cases place with
  | atom => exact depth_beginAtom accepted
  | listStart =>
      by_cases closed : token = .punct .rbracket
      · subst token
        cases accepted
        rfl
      · rw [accept_listStart_of_ne closed] at accepted
        exact depth_beginElement accepted
  | element done => exact depth_beginElement accepted
  | openEnd done =>
      rcases accept_openEnd_eq_some_iff.mp accepted with ⟨rfl, rfl⟩
      rfl
  | after atom => exact depth_followAtom accepted
  | suffix atom =>
      rcases accept_suffix_eq_some_iff.mp accepted with ⟨rfl, rfl⟩
      rfl

end Steps

theorem countsBrackets (config : Config) : (reader config).CountsBrackets State.depth where
  start := rfl
  accept := depth_accept

/-- A complete expression with a bar behind it and nothing more. -/
def DanglingBar (config : Config) (tokens : List Token) : Prop :=
  exists front expr, tokens = front ++ [.punct .bar] ∧ Spells config front expr

/-- A state that asks for a token outside all brackets asks for an atom. -/
theorem eq_atom_of_depth_eq_zero {state : State} {expected : Option Expected}
    (wanted : demand state = .token expected) (outside : state.depth = 0) :
    state = ⟨.atom, state.members, []⟩ := by
  rcases state with ⟨place, members, frames⟩
  have nothingOpen := Nat.add_eq_zero_iff.mp outside
  have noFrames : frames = [] := List.length_eq_zero_iff.mp nothingOpen.1
  subst noFrames
  cases place with
  | atom => rfl
  | after atom => cases wanted
  | _ => cases nothingOpen.2

/-- An atom is due outside all brackets at the beginning and behind a bar, and nowhere else. -/
theorem danglingBar_of_advance? {config : Config} {tokens : List Token}
    {members : List Alternative} (nonempty : tokens ≠ [])
    (reached : (reader config).advance? (reader config).start tokens =
      some ⟨.atom, members, []⟩) : DanglingBar config tokens := by
  rcases spellsState_of_advance? reached with ⟨around, before, here, split, outside, earlier, place⟩
  cases outside
  cases place
  rw [List.nil_append, List.append_nil] at split
  subst split
  cases earlier with
  | none => exact absurd rfl nonempty
  | bar level => exact ⟨_, _, rfl, _, level, rfl⟩

/-- A bar behind a complete expression asks for one more atom. -/
theorem DanglingBar.advance?_eq {config : Config} {tokens : List Token}
    (dangling : DanglingBar config tokens) :
    exists members, (reader config).advance? (reader config).start tokens =
      some ⟨.atom, members, []⟩ := by
  rcases dangling with ⟨front, expr, split, spelled⟩
  rcases accepts_iff_spells.mpr spelled with ⟨last, reached, complete⟩
  rcases demand_eq_complete_iff.mp complete with ⟨atom, before, stopped, _⟩
  subst split
  subst stopped
  refine ⟨before ++ atom.members, ?_⟩
  rw [Reader.advance?_append_of_eq _ reached]
  rfl

theorem parse_of_danglingBar {config : Config} {tokens : List Token}
    (dangling : DanglingBar config tokens) :
    parse config tokens = .error (.unexpectedEnd none) := by
  have nonempty : tokens ≠ [] := by
    rcases dangling with ⟨front, expr, split, _⟩
    rw [split]
    exact List.concat_ne_nil _ front
  rcases dangling.advance?_eq with ⟨members, reached⟩
  have ended : readLongest config tokens = ⟨.error (.unexpectedEnd none), []⟩ :=
    (reader config).run_eq_unexpectedEnd_iff.mpr ⟨rfl, _, reached, rfl⟩
  rw [parse, read_of_ne_nil config nonempty, ended]
  cases config.trailing <;> rfl

theorem openings_eq_of_danglingBar {config : Config} {tokens : List Token}
    (dangling : DanglingBar config tokens) : openings tokens = closings tokens := by
  rcases dangling.advance?_eq with ⟨members, reached⟩
  exact (countsBrackets config).openings_eq reached

/-- A type expression that ends too early ends inside a bracket or behind a bar outside all of
them. -/
theorem unclosed_or_danglingBar {config : Config} {tokens : List Token}
    {expected : Option Expected}
    (failed : parse config tokens = .error (.unexpectedEnd expected)) :
    closings tokens < openings tokens ∨ DanglingBar config tokens := by
  have nonempty : tokens ≠ [] := by
    intro empty
    subst empty
    cases failed
  rw [parse, read_of_ne_nil config nonempty] at failed
  rcases Reader.exists_state_of_unexpectedEnd failed with ⟨last, reached, wanted⟩
  have balanced := (countsBrackets config).openings_eq reached
  by_cases outside : last.depth = 0
  · rw [eq_atom_of_depth_eq_zero wanted outside] at reached
    exact Or.inr (danglingBar_of_advance? nonempty reached)
  · apply Or.inl
    omega

end TypeExpr

/-! ## Tree literals -/

namespace BinaryTree

def Place.depth : Place -> Nat
  | due => 0
  | listStart => 1
  | after _ => 0

def State.depth (state : State) : Nat :=
  state.brackets.length + state.place.depth

section Steps

variable {brackets : List Bracket} {token : Token} {next : State}

theorem depth_beginTree (begun : beginTree brackets token = some next) :
    next.depth + closings [token] = brackets.length + openings [token] := by
  cases token with
  | literal literal =>
      rcases Option.map_eq_some_iff.mp begun with ⟨tree, _, same⟩
      subst same
      rfl
  | punct mark =>
      cases mark <;> cases begun <;>
        simp [State.depth, Place.depth, Punctuation.isOpening, Punctuation.category,
          Punctuation.isClosing]

theorem depth_leaveBracket {tree : BinaryTree} {bracket : Bracket}
    (left : leaveBracket tree bracket brackets token = some next) :
    next.depth + closings [token] = brackets.length + 1 + openings [token] := by
  cases token with
  | literal literal => cases left
  | punct mark =>
      cases bracket <;> cases mark <;> cases left <;>
        simp [State.depth, Place.depth, Punctuation.isOpening, Punctuation.category,
          Punctuation.isClosing]

theorem depth_accept {state : State} (accepted : accept state token = some next) :
    next.depth + closings [token] = state.depth + openings [token] := by
  rcases state with ⟨place, brackets⟩
  cases place with
  | due => exact depth_beginTree accepted
  | listStart =>
      by_cases closed : token = .punct .rbracket
      · subst token
        cases accepted
        rfl
      · rw [accept_listStart_of_ne closed] at accepted
        exact depth_beginTree accepted
  | after tree =>
      cases brackets with
      | nil => cases accepted
      | cons bracket brackets => exact depth_leaveBracket accepted

end Steps

theorem countsBrackets : reader.CountsBrackets State.depth where
  start := rfl
  accept := depth_accept

theorem eq_due_of_depth_eq_zero {state : State} {expected : Option Expected}
    (wanted : demand state = .token expected) (outside : state.depth = 0) :
    state = ⟨.due, []⟩ := by
  rcases state with ⟨place, brackets⟩
  have nothingOpen := Nat.add_eq_zero_iff.mp outside
  have noBrackets : brackets = [] := List.length_eq_zero_iff.mp nothingOpen.1
  subst noBrackets
  cases place with
  | due => rfl
  | listStart => cases nothingOpen.2
  | after tree => cases wanted

/-- Outside all brackets a tree is due at the beginning only. -/
theorem eq_nil_of_advance?_due {tokens : List Token}
    (reached : reader.advance? reader.start tokens = some ⟨.due, []⟩) : tokens = [] := by
  rcases spellsState_of_advance? reached with ⟨around, here, split, outside, place⟩
  cases outside
  cases place
  exact split

/-- A tree literal that ends too early ends inside a bracket. -/
theorem closings_lt_openings {tokens : List Token} {expected : Option Expected}
    (failed : parse tokens = .error (.unexpectedEnd expected)) :
    closings tokens < openings tokens := by
  have nonempty : tokens ≠ [] := by
    intro empty
    subst empty
    cases failed
  rw [parse, read_of_ne_nil nonempty] at failed
  rcases Reader.exists_state_of_unexpectedEnd failed with ⟨last, reached, wanted⟩
  have balanced := countsBrackets.openings_eq reached
  have inside : last.depth ≠ 0 := by
    intro outside
    rw [eq_due_of_depth_eq_zero wanted outside] at reached
    exact nonempty (eq_nil_of_advance?_due reached)
  omega

end BinaryTree

/-- Where an input ends too early, more brackets were opened than closed, for tree literals always
and for type expressions unless a bar dangles behind a complete expression.  A dangling bar always
ends too early, with as many brackets closed as opened. -/
theorem unclosed_unless_danglingBar (config : Config) (tokens : List Token) :
    (forall expected, TypeExpr.parse config tokens = .error (.unexpectedEnd expected) ->
      (closings tokens < openings tokens <-> ¬ TypeExpr.DanglingBar config tokens)) ∧
    (TypeExpr.DanglingBar config tokens ->
      TypeExpr.parse config tokens = .error (.unexpectedEnd none) ∧
        closings tokens = openings tokens) ∧
    (forall expected, BinaryTree.parse tokens = .error (.unexpectedEnd expected) ->
      closings tokens < openings tokens) := by
  refine ⟨?_, ?_, ?_⟩
  · intro expected failed
    constructor
    · intro unclosed dangling
      have balanced := TypeExpr.openings_eq_of_danglingBar dangling
      omega
    · intro notDangling
      rcases TypeExpr.unclosed_or_danglingBar failed with unclosed | dangling
      · exact unclosed
      · exact absurd dangling notDangling
  · intro dangling
    have balanced := TypeExpr.openings_eq_of_danglingBar dangling
    exact ⟨TypeExpr.parse_of_danglingBar dangling, balanced.symm⟩
  · intro expected failed
    exact BinaryTree.closings_lt_openings failed

/-- Inside a group a bar leaves the group open, and a tree may end inside a list inside a node. -/
theorem unclosed_behind_bar_in_group_and_in_list :
    (closings [.punct .lparen, Token.name "a", .punct .bar] <
        openings [.punct .lparen, Token.name "a", .punct .bar] <->
      ¬ TypeExpr.DanglingBar .standard [.punct .lparen, Token.name "a", .punct .bar]) ∧
    (TypeExpr.parse .standard [Token.name "a", .punct .bar] = .error (.unexpectedEnd none) ∧
      closings [Token.name "a", .punct .bar] = openings [Token.name "a", .punct .bar]) ∧
    closings [.punct .langle, .punct .lbracket, Token.int 1, .punct .comma] <
      openings [.punct .langle, .punct .lbracket, Token.int 1, .punct .comma] := by
  have spelled : TypeExpr.Spells .standard [Token.name "a"] (TypeExpr.leaf (.name "a")) :=
    ⟨_, .single (.literal (.name "a")), rfl⟩
  refine ⟨?_, ?_, ?_⟩
  · exact (unclosed_unless_danglingBar .standard _).1 none rfl
  · exact (unclosed_unless_danglingBar .standard _).2.1 ⟨_, _, rfl, spelled⟩
  · exact (unclosed_unless_danglingBar .standard _).2.2 none rfl

/-- A name and a bar end too early without any bracket, and the advice speaks of brackets. -/
theorem advice_on_brackets_behind_name_and_bar :
    exists expected, TypeExpr.parse .standard [Token.name "a", .punct .bar] =
        .error (.unexpectedEnd expected) ∧
      (ParseError.unexpectedEnd expected).help? =
        some "the expression stops before every bracket is closed" ∧
      ¬ closings [Token.name "a", .punct .bar] < openings [Token.name "a", .punct .bar] := by
  refine ⟨none, rfl, rfl, ?_⟩
  decide

end TreeShapes
