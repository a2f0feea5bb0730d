import TreeShapes.Proofs.StoppingPoints
import TreeShapes.TypeExpr.Grammar
import TreeShapes.TypeExpr.Reading

namespace TreeShapes
namespace TypeExpr

/-!
# The reader of type expressions reads their grammar

`Spells` says which tokens spell which expression without any order of reading;
the reader keeps a stack of open brackets and sees one token at a time.  Both
describe the same language with the same values.

From the grammar to the reader, every derivation of an atom takes the reader
from any place where an atom is due to the place behind that atom, and leaves
the members and the open brackets around it alone.  From the reader to the
grammar, `SpellsState` says what the tokens consumed so far spell: a derivation
for every completed part, and the opening tokens of every bracket that is still
open.  Each accepted token keeps that relation, so every walk does.
-/

/-! ## Derivations drive the reader -/

/-- Where the reader stands inside a fixed list after the given elements and their commas. -/
def elementPlace : List TypeExpr -> Place
  | [] => .listStart
  | done => .element done

/-- An element begins like any atom, at a level of its own inside the list.  The two tokens that a
list treats otherwise, the right bracket and the ellipsis, cannot begin an atom. -/
theorem accept_elementPlace {config : Config} {done : List TypeExpr} {outer : List Alternative}
    {frames : List Frame} {token : Token} {next : State}
    (accepted : accept config ⟨.atom, [], ⟨.items done, outer⟩ :: frames⟩ token = some next) :
    accept config ⟨elementPlace done, outer, frames⟩ token = some next := by
  rw [← accepted]
  cases token with
  | literal literal => cases done <;> rfl
  | punct mark =>
      cases mark with
      | rbracket => cases accepted
      | ellipsis => cases accepted
      | _ => cases done <;> rfl

theorem advance?_elementPlace {config : Config} {done : List TypeExpr} {outer : List Alternative}
    {frames : List Frame} {tokens : List Token} {atom : TypeExpr} {members : List Alternative}
    (reached : (reader config).advance? ⟨.atom, [], ⟨.items done, outer⟩ :: frames⟩ tokens =
      some ⟨.after atom, members, ⟨.items done, outer⟩ :: frames⟩) :
    (reader config).advance? ⟨elementPlace done, outer, frames⟩ tokens =
      some ⟨.after atom, members, ⟨.items done, outer⟩ :: frames⟩ := by
  cases tokens with
  | nil => cases reached
  | cons token tokens =>
      simp only [Reader.advance?, Option.bind_eq_some_iff] at reached ⊢
      rcases reached with ⟨next, accepted, reached⟩
      exact ⟨next, accept_elementPlace accepted, reached⟩

theorem elementPlace_concat (done : List TypeExpr) (last : TypeExpr) :
    elementPlace (done ++ [last]) = .element (done ++ [last]) := by
  cases done <;> rfl

mutual

/-- A spelled atom takes the reader from a place where an atom is due to the place behind it, and
neither looks at nor changes the members and the brackets around it. -/
theorem SpellsAtom.advance?_eq {config : Config} :
    forall {tokens : List Token} {value : TypeExpr}, SpellsAtom config tokens value ->
      forall (members : List Alternative) (frames : List Frame),
        (reader config).advance? ⟨.atom, members, frames⟩ tokens =
          some ⟨.after value, members, frames⟩
  | _, _, .literal literal, members, frames => rfl
  | _, _, .group inner, members, frames => by
      rcases inner.advance?_eq (⟨.group, members⟩ :: frames) with ⟨before, atom, rfl, reached⟩
      change (reader config).advance? ⟨.atom, [], ⟨.group, members⟩ :: frames⟩ (_ ++ [_]) = _
      rw [Reader.advance?_append_of_eq _ reached]
      rfl
  | _, _, .tree left right, members, frames => by
      rcases left.advance?_eq (⟨.left, members⟩ :: frames) with
        ⟨leftBefore, leftAtom, rfl, leftReached⟩
      let child := close leftBefore leftAtom
      rcases right.advance?_eq (⟨.right child, members⟩ :: frames) with
        ⟨rightBefore, rightAtom, rfl, rightReached⟩
      change (reader config).advance? ⟨.atom, [], ⟨.left, members⟩ :: frames⟩ (_ ++ _ :: _) = _
      rw [Reader.advance?_append_of_eq _ leftReached]
      change (reader config).advance? ⟨.atom, [], ⟨.right child, members⟩ :: frames⟩ (_ ++ [_]) = _
      rw [Reader.advance?_append_of_eq _ rightReached]
      rfl
  | _, _, .emptyList, members, frames => rfl
  | _, _, @SpellsAtom.closedList _ _ _ elements _ earlier last, members, frames => by
      rcases last.advance?_eq (⟨.items elements, members⟩ :: frames) with
        ⟨before, atom, rfl, reached⟩
      change (reader config).advance? ⟨.listStart, members, frames⟩ (_ ++ _ ++ [_]) = _
      rw [List.append_assoc, Reader.advance?_append_of_eq _ (earlier.advance?_eq members frames),
        Reader.advance?_append_of_eq _ (advance?_elementPlace reached)]
      rfl
  | _, _, @SpellsAtom.openList _ _ elements earlier, members, frames => by
      change (reader config).advance? ⟨.listStart, members, frames⟩ (_ ++ [_, _]) = _
      rw [Reader.advance?_append_of_eq _ (earlier.advance?_eq members frames)]
      cases elements <;> rfl
  | _, _, .listOf atom, members, frames => by
      rw [Reader.advance?_append_of_eq _ (atom.advance?_eq members frames)]
      rfl

/-- Spelled alternatives take the reader behind the last of their atoms, with the members of the
others put aside. -/
theorem SpellsMembers.advance?_eq {config : Config} :
    forall {tokens : List Token} {members : List Alternative}, SpellsMembers config tokens members ->
      forall frames : List Frame, exists before atom, members = before ++ atom.members ∧
        (reader config).advance? ⟨.atom, [], frames⟩ tokens =
          some ⟨.after atom, before, frames⟩
  | _, _, .single atom, frames => ⟨[], _, rfl, atom.advance?_eq [] frames⟩
  | _, _, .bar others last, frames => by
      rcases others.advance?_eq frames with ⟨before, atom, rfl, reached⟩
      refine ⟨before ++ atom.members, _, rfl, ?_⟩
      rw [Reader.advance?_append_of_eq _ reached]
      exact last.advance?_eq (before ++ atom.members) frames

theorem SpellsElements.advance?_eq {config : Config} :
    forall {tokens : List Token} {elements : List TypeExpr},
      SpellsElements config tokens elements ->
      forall (outer : List Alternative) (frames : List Frame),
        (reader config).advance? ⟨.listStart, outer, frames⟩ tokens =
          some ⟨elementPlace elements, outer, frames⟩
  | _, _, .none, outer, frames => rfl
  | _, _, @SpellsElements.comma _ _ _ elements _ earlier last, outer, frames => by
      rcases last.advance?_eq (⟨.items elements, outer⟩ :: frames) with
        ⟨before, atom, rfl, reached⟩
      rw [List.append_assoc, Reader.advance?_append_of_eq _ (earlier.advance?_eq outer frames),
        Reader.advance?_append_of_eq _ (advance?_elementPlace reached), elementPlace_concat]
      rfl

end

/-! ## What the consumed tokens spell -/

/-- The tokens in front of a place at its level: none, or alternatives with a bar behind them. -/
inductive SpellsBefore (config : Config) : List Token -> List Alternative -> Prop
  | none : SpellsBefore config [] []
  | bar {tokens : List Token} {members : List Alternative}
      (earlier : SpellsMembers config tokens members) :
      SpellsBefore config (tokens ++ [.punct .bar]) members

/-- The tokens that lead from the beginning of an atom to a place. -/
inductive SpellsPlace (config : Config) : List Token -> Place -> Prop
  | atom : SpellsPlace config [] .atom
  | listStart : SpellsPlace config [.punct .lbracket] .listStart
  | element {tokens : List Token} {done : List TypeExpr}
      (earlier : SpellsElements config tokens done) :
      SpellsPlace config (.punct .lbracket :: tokens) (.element done)
  | openEnd {tokens : List Token} {done : List TypeExpr}
      (earlier : SpellsElements config tokens done) :
      SpellsPlace config (.punct .lbracket :: (tokens ++ [.punct .ellipsis])) (.openEnd done)
  | after {tokens : List Token} {value : TypeExpr} (atom : SpellsAtom config tokens value) :
      SpellsPlace config tokens (.after value)
  | suffix {tokens : List Token} {value : TypeExpr} (atom : SpellsAtom config tokens value) :
      SpellsPlace config (tokens ++ [.punct .lbracket]) (.suffix value)

/-- The tokens of an open bracket, up to where its last level begins. -/
inductive SpellsBracket (config : Config) : List Token -> Bracket -> Prop
  | group : SpellsBracket config [.punct .lparen] .group
  | left : SpellsBracket config [.punct .langle] .left
  | right {tokens : List Token} {members : List Alternative}
      (left : SpellsMembers config tokens members) :
      SpellsBracket config (.punct .langle :: (tokens ++ [.punct .dot]))
        (.right (ofMembers members))
  | items {tokens : List Token} {done : List TypeExpr}
      (earlier : SpellsElements config tokens done) :
      SpellsBracket config (.punct .lbracket :: tokens) (.items done)

/-- The tokens of all open brackets, each behind what stands before it at the level around it. -/
inductive SpellsFrames (config : Config) : List Token -> List Frame -> Prop
  | none : SpellsFrames config [] []
  | frame {tokens beforeTokens bracketTokens : List Token} {frames : List Frame}
      {bracket : Bracket} {outer : List Alternative}
      (around : SpellsFrames config tokens frames)
      (before : SpellsBefore config beforeTokens outer)
      (opened : SpellsBracket config bracketTokens bracket) :
      SpellsFrames config (tokens ++ (beforeTokens ++ bracketTokens)) (⟨bracket, outer⟩ :: frames)

/-- The consumed tokens spell everything that a state remembers: the open brackets, then the
members of the current level, then the tokens of the place. -/
def SpellsState (config : Config) (tokens : List Token) (state : State) : Prop :=
  exists around before here, tokens = around ++ (before ++ here) ∧
    SpellsFrames config around state.frames ∧ SpellsBefore config before state.members ∧
    SpellsPlace config here state.place

theorem SpellsBefore.spellsMembers {config : Config} {before here : List Token}
    {members : List Alternative} {atom : TypeExpr} (earlier : SpellsBefore config before members)
    (last : SpellsAtom config here atom) :
    SpellsMembers config (before ++ here) (members ++ atom.members) := by
  cases earlier with
  | none => exact .single last
  | bar others =>
      rw [List.append_assoc]
      exact .bar others last

section Steps

variable {config : Config} {around before : List Token} {members : List Alternative}
  {frames : List Frame} {token : Token} {next : State}

theorem spellsState_beginAtom (outside : SpellsFrames config around frames)
    (earlier : SpellsBefore config before members)
    (begun : beginAtom members frames token = some next) :
    SpellsState config (around ++ (before ++ [token])) next := by
  cases token with
  | literal literal =>
      cases begun
      exact ⟨_, _, _, rfl, outside, earlier, .after (.literal literal)⟩
  | punct mark =>
      cases mark with
      | lbracket =>
          cases begun
          exact ⟨_, _, _, rfl, outside, earlier, .listStart⟩
      | lparen =>
          cases begun
          exact ⟨_, _, _, by simp, .frame outside earlier .group, .none, .atom⟩
      | langle =>
          cases begun
          exact ⟨_, _, _, by simp, .frame outside earlier .left, .none, .atom⟩
      | _ => cases begun

theorem spellsState_beginElement {tokens : List Token} {done : List TypeExpr}
    (outside : SpellsFrames config around frames) (earlier : SpellsBefore config before members)
    (elements : SpellsElements config tokens done)
    (begun : beginElement members frames done token = some next) :
    SpellsState config (around ++ (before ++ .punct .lbracket :: (tokens ++ [token]))) next := by
  by_cases ellipsis : token = .punct .ellipsis
  · subst token
    cases begun
    exact ⟨_, _, _, rfl, outside, earlier, .openEnd elements⟩
  · have begins : beginAtom [] (⟨.items done, members⟩ :: frames) token = some next := by
      rw [← begun, beginElement]
      exact ellipsis
    have inside := spellsState_beginAtom (.frame outside earlier (.items elements)) .none begins
    simpa only [List.append_assoc, List.cons_append, List.nil_append] using inside

theorem spellsState_leaveBracket {opening inner : List Token} {bracket : Bracket}
    {innerMembers : List Alternative} (outside : SpellsFrames config around frames)
    (earlier : SpellsBefore config before members)
    (opened : SpellsBracket config opening bracket)
    (level : SpellsMembers config inner innerMembers)
    (left : leaveBracket config (ofMembers innerMembers) ⟨bracket, members⟩ frames token =
      some next) :
    SpellsState config (around ++ (before ++ (opening ++ (inner ++ [token])))) next := by
  cases token with
  | literal literal => cases left
  | punct mark =>
      cases opened with
      | group =>
          cases mark with
          | rparen =>
              cases left
              exact ⟨_, _, _, rfl, outside, earlier, .after (.group level)⟩
          | _ => cases left
      | left =>
          cases mark with
          | dot =>
              cases left
              exact ⟨_, _, _, by simp, .frame outside earlier (.right level), .none, .atom⟩
          | _ => cases left
      | right child =>
          cases mark with
          | rangle =>
              cases left
              exact ⟨_, _, _, by simp, outside, earlier, .after (.tree child level)⟩
          | _ => cases left
      | items elements =>
          cases mark with
          | comma =>
              cases left
              exact ⟨_, _, _, by simp, outside, earlier, .element (.comma elements level)⟩
          | rbracket =>
              cases left
              exact ⟨_, _, _, by simp, outside, earlier, .after (.closedList elements level)⟩
          | _ => cases left

/-- A token that neither begins a suffix nor another alternative has to leave the bracket. -/
theorem followAtom_cons_of_ne {atom : TypeExpr} {frame : Frame}
    (notSuffix : token ≠ .punct .lbracket) (notBar : token ≠ .punct .bar) :
    followAtom config members (frame :: frames) atom token =
      leaveBracket config (close members atom) frame frames token := by
  rw [followAtom]
  · exact notSuffix
  · exact notBar

theorem followAtom_nil_of_ne {atom : TypeExpr}
    (notSuffix : token ≠ .punct .lbracket) (notBar : token ≠ .punct .bar) :
    followAtom config members [] atom token = none := by
  rw [followAtom]
  · exact notSuffix
  · exact notBar

theorem spellsState_followAtom {here : List Token} {atom : TypeExpr}
    (outside : SpellsFrames config around frames) (earlier : SpellsBefore config before members)
    (spelled : SpellsAtom config here atom)
    (followed : followAtom config members frames atom token = some next) :
    SpellsState config (around ++ (before ++ (here ++ [token]))) next := by
  have level := earlier.spellsMembers spelled
  by_cases suffix : token = .punct .lbracket
  · subst token
    cases followed
    exact ⟨_, _, _, rfl, outside, earlier, .suffix spelled⟩
  by_cases bar : token = .punct .bar
  · subst token
    cases followed
    exact ⟨_, _, _, by simp, outside, .bar level, .atom⟩
  cases outside with
  | none =>
      rw [followAtom_nil_of_ne suffix bar] at followed
      cases followed
  | frame outside outerEarlier opened =>
      rw [followAtom_cons_of_ne suffix bar] at followed
      have inside := spellsState_leaveBracket outside outerEarlier opened level followed
      simpa only [List.append_assoc] using inside

theorem accept_listStart_of_ne (different : token ≠ .punct .rbracket) :
    accept config ⟨.listStart, members, frames⟩ token = beginElement members frames [] token := by
  cases token with
  | literal literal => rfl
  | punct mark =>
      cases mark with
      | rbracket => exact absurd rfl different
      | _ => rfl

theorem accept_openEnd_eq_some_iff {done : List TypeExpr} :
    accept config ⟨.openEnd done, members, frames⟩ token = some next <->
      token = .punct .rbracket ∧
        next = ⟨.after (fixedList done (leaf config.openTail)), members, frames⟩ := by
  cases token with
  | literal literal => simp [accept]
  | punct mark => cases mark <;> simp [accept, eq_comm]

theorem accept_suffix_eq_some_iff {atom : TypeExpr} :
    accept config ⟨.suffix atom, members, frames⟩ token = some next <->
      token = .punct .rbracket ∧ next = ⟨.after (.list atom), members, frames⟩ := by
  cases token with
  | literal literal => simp [accept]
  | punct mark => cases mark <;> simp [accept, eq_comm]

theorem SpellsState.accept {consumed : List Token} {state : State}
    (spelled : SpellsState config consumed state)
    (accepted : accept config state token = some next) :
    SpellsState config (consumed ++ [token]) next := by
  rcases state with ⟨place, members, frames⟩
  rcases spelled with ⟨around, before, here, rfl, outside, earlier, place⟩
  simp only [List.append_assoc]
  cases place with
  | atom => exact spellsState_beginAtom outside earlier accepted
  | listStart =>
      by_cases closed : token = .punct .rbracket
      · subst token
        cases accepted
        exact ⟨_, _, _, rfl, outside, earlier, .after .emptyList⟩
      · rw [accept_listStart_of_ne closed] at accepted
        exact spellsState_beginElement outside earlier .none accepted
  | element elements => exact spellsState_beginElement outside earlier elements accepted
  | openEnd elements =>
      rcases accept_openEnd_eq_some_iff.mp accepted with ⟨rfl, rfl⟩
      exact ⟨_, _, _, by simp, outside, earlier, .after (.openList elements)⟩
  | after atom => exact spellsState_followAtom outside earlier atom accepted
  | suffix atom =>
      rcases accept_suffix_eq_some_iff.mp accepted with ⟨rfl, rfl⟩
      exact ⟨_, _, _, by simp, outside, earlier, .after (.listOf atom)⟩

end Steps

/-! ## The language of the reader -/

/-- Whatever the reader can walk through spells the state that it leads to. -/
theorem spellsState_of_advance? {config : Config} {tokens : List Token} {state : State}
    (reached : (reader config).advance? (reader config).start tokens = some state) :
    SpellsState config tokens state := by
  have begins : SpellsState config [] (reader config).start :=
    ⟨[], [], [], rfl, .none, .none, .atom⟩
  exact (reader config).advance?_invariant SpellsState.accept begins reached

theorem demand_eq_complete_iff {state : State} {expr : TypeExpr} :
    demand state = .complete expr <->
      exists atom members, state = ⟨.after atom, members, []⟩ ∧ expr = close members atom := by
  constructor
  · rcases state with ⟨place, members, frames⟩
    intro complete
    cases place with
    | after atom =>
        cases frames with
        | nil =>
            cases complete
            exact ⟨atom, members, rfl, rfl⟩
        | cons frame frames => cases complete
    | _ => cases complete
  · rintro ⟨atom, members, rfl, rfl⟩
    rfl

theorem accepts_iff_spells {config : Config} {tokens : List Token} {expr : TypeExpr} :
    (reader config).Accepts tokens expr <-> Spells config tokens expr := by
  constructor
  · rintro ⟨last, reached, complete⟩
    rcases demand_eq_complete_iff.mp complete with ⟨atom, members, rfl, rfl⟩
    rcases spellsState_of_advance? reached with ⟨around, before, here, rfl, outside, earlier, place⟩
    cases outside
    cases place with
    | after spelled => exact ⟨_, earlier.spellsMembers spelled, rfl⟩
  · rintro ⟨members, spelled, rfl⟩
    rcases spelled.advance?_eq [] with ⟨before, atom, rfl, reached⟩
    exact ⟨_, reached, rfl⟩

/-- The policy for leftover tokens is no part of the grammar: the reader does not consult it. -/
theorem spells_withTrailing_iff {config : Config} {trailing : Trailing} {tokens : List Token}
    {expr : TypeExpr} :
    Spells (config.withTrailing trailing) tokens expr <-> Spells config tokens expr := by
  have sameReader : reader (config.withTrailing trailing) = reader config := rfl
  rw [← accepts_iff_spells, ← accepts_iff_spells, sameReader]

/-- No expression is spelled by nothing: the place where an atom is due is not behind one. -/
theorem Spells.ne_nil {config : Config} {tokens : List Token} {expr : TypeExpr}
    (spelled : Spells config tokens expr) : tokens ≠ [] := by
  rintro rfl
  rcases accepts_iff_spells.mpr spelled with ⟨last, reached, complete⟩
  cases reached
  cases complete

/-- A complete expression goes on with another alternative or with a list suffix, and with no
other token. -/
theorem accept_eq_none_iff_of_complete {config : Config} {state : State} {expr : TypeExpr}
    {token : Token} (complete : demand state = .complete expr) :
    accept config state token = none <->
      token ≠ .punct .bar ∧ token ≠ .punct .lbracket := by
  rcases demand_eq_complete_iff.mp complete with ⟨atom, members, rfl, rfl⟩
  constructor
  · intro refused
    constructor
    · rintro rfl
      cases refused
    · rintro rfl
      cases refused
  · rintro ⟨notBar, notSuffix⟩
    change followAtom config members [] atom token = none
    exact followAtom_nil_of_ne notSuffix notBar

theorem refuses_iff_of_complete {config : Config} {state : State} {expr : TypeExpr}
    {rest : List Token} (complete : demand state = .complete expr) :
    (reader config).Refuses state rest <->
      rest.head? ≠ some (.punct .bar) ∧ rest.head? ≠ some (.punct .lbracket) := by
  cases rest with
  | nil => simp [Reader.refuses_nil]
  | cons token rest =>
      rw [Reader.refuses_cons_iff, List.head?_cons, ne_eq, ne_eq, Option.some.injEq,
        Option.some.injEq]
      exact accept_eq_none_iff_of_complete complete

/-- The longest expression at the beginning of the tokens is any expression spelled there that no
bar and no left bracket follows. -/
theorem readLongest_eq_ok_iff {config : Config} {tokens rest : List Token} {expr : TypeExpr} :
    readLongest config tokens = ⟨.ok expr, rest⟩ <->
      exists consumed, tokens = consumed ++ rest ∧ Spells config consumed expr ∧
        rest.head? ≠ some (.punct .bar) ∧ rest.head? ≠ some (.punct .lbracket) := by
  rw [readLongest, Reader.read, Reader.run_eq_ok_iff]
  constructor
  · rintro ⟨consumed, last, split, reached, complete, refused⟩
    exact ⟨consumed, split, accepts_iff_spells.mp ⟨last, reached, complete⟩,
      (refuses_iff_of_complete complete).mp refused⟩
  · rintro ⟨consumed, split, spelled, follow⟩
    rcases accepts_iff_spells.mpr spelled with ⟨last, reached, complete⟩
    exact ⟨consumed, last, split, reached, complete, (refuses_iff_of_complete complete).mpr follow⟩

theorem read_of_ne_nil (config : Config) {tokens : List Token} (nonempty : tokens ≠ []) :
    read config tokens = (readLongest config tokens).settle config.trailing := by
  cases tokens with
  | nil => exact absurd rfl nonempty
  | cons token tokens => rfl

/-- The longest expression is settled alike under both policies when nothing follows it. -/
theorem Spells.read_eq {config : Config} {tokens : List Token} {expr : TypeExpr}
    (spelled : Spells config tokens expr) : read config tokens = ⟨.ok expr, []⟩ := by
  have longest : readLongest config tokens = ⟨.ok expr, []⟩ :=
    readLongest_eq_ok_iff.mpr ⟨tokens, (List.append_nil tokens).symm, spelled, by simp, by simp⟩
  rw [read_of_ne_nil config spelled.ne_nil, longest]
  cases config.trailing <;> rfl

theorem exists_spells_of_read {config : Config} {tokens rest : List Token} {expr : TypeExpr}
    (nonempty : tokens ≠ []) (finished : read config tokens = ⟨.ok expr, rest⟩) :
    exists consumed, tokens = consumed ++ rest ∧ Spells config consumed expr := by
  rw [read_of_ne_nil config nonempty] at finished
  cases policy : config.trailing with
  | ignore =>
      rw [policy, Reading.settle_ignore] at finished
      rcases readLongest_eq_ok_iff.mp finished with ⟨consumed, split, spelled, _⟩
      exact ⟨consumed, split, spelled⟩
  | reject =>
      rw [policy, readLongest, Reader.settle_reject_read_eq_ok_iff] at finished
      rcases finished with ⟨accepted, rfl⟩
      exact ⟨tokens, (List.append_nil tokens).symm, accepts_iff_spells.mp accepted⟩

theorem parse_eq_ok_iff_of_reject {config : Config} (rejecting : config.trailing = .reject)
    {tokens : List Token} (nonempty : tokens ≠ []) {expr : TypeExpr} :
    parse config tokens = .ok expr <-> Spells config tokens expr := by
  constructor
  · intro finished
    rcases Reading.result_eq_iff.mp finished with ⟨rest, whole⟩
    rw [read_of_ne_nil config nonempty, rejecting, readLongest,
      Reader.settle_reject_read_eq_ok_iff] at whole
    exact accepts_iff_spells.mp whole.1
  · intro spelled
    rw [parse, spelled.read_eq]

/-- Reading a type expression is deciding its grammar, with the value that the grammar gives.  A
reading that ignores leftover tokens takes a spelled beginning of the input that neither a bar nor
a left bracket follows; a reading that rejects them takes the whole input. -/
theorem read_eq_ok_iff_spells (config : Config) {tokens : List Token} (nonempty : tokens ≠ [])
    (expr : TypeExpr) (rest : List Token) :
    (config.trailing = .ignore ->
      (read config tokens = ⟨.ok expr, rest⟩ <->
        exists consumed, tokens = consumed ++ rest ∧ Spells config consumed expr ∧
          rest.head? ≠ some (.punct .bar) ∧ rest.head? ≠ some (.punct .lbracket))) ∧
    (config.trailing = .reject ->
      (read config tokens = ⟨.ok expr, rest⟩ <-> Spells config tokens expr ∧ rest = [])) := by
  rw [read_of_ne_nil config nonempty]
  constructor
  · intro ignoring
    rw [ignoring, Reading.settle_ignore]
    exact readLongest_eq_ok_iff
  · intro rejecting
    rw [rejecting, readLongest, Reader.settle_reject_read_eq_ok_iff, accepts_iff_spells]

/-- A suffix binds to the atom before it, and the closing parenthesis that nothing opened stays
unread. -/
theorem read_choice_before_rparen :
    read .standard [Token.name "int", .punct .bar, Token.name "any", .punct .lbracket,
        .punct .rbracket, .punct .rparen] =
      ⟨.ok (.choice [.leaf (.name "int"), .node (.list (leaf (.name "any")))]),
        [.punct .rparen]⟩ := by
  have spelled : SpellsMembers .standard _ _ :=
    .bar (.single (.literal (.name "int"))) (.listOf (.literal (.name "any")))
  exact ((read_eq_ok_iff_spells .standard (List.cons_ne_nil _ _) _ _).1 rfl).mpr
    ⟨_, rfl, ⟨_, spelled, rfl⟩, by decide, by decide⟩

end TypeExpr
end TreeShapes
