import TreeShapes.Proofs.Translations
import TreeShapes.TypeExpr.Leaves
import TreeShapes.TypeExpr.Reading

namespace TreeShapes

/-!
# Literals are opaque to the reader of type expressions

Any function on literals may be applied to the input and to the configuration
before a reading, or to the result, the error and the remaining tokens after
it: the outcome is the same.  The function may merge literals, turn names into
numbers, or produce a reserved spelling.

Renaming acts on everything that a state of the reader remembers.  Each part of
the step function commutes with it, because a literal is only ever stored, so
renaming is a translation from the reader of a configuration to the reader of
the renamed configuration.
-/

def Token.rename (naming : Literal -> Literal) : Token -> Token
  | punct mark => .punct mark
  | literal value => .literal (naming value)

/-- Rename the three literals that a reading may insert. -/
def Config.rename (naming : Literal -> Literal) (config : Config) : Config where
  emptyInput := naming config.emptyInput
  listTerminator := naming config.listTerminator
  openTail := naming config.openTail
  trailing := config.trailing

namespace TypeExpr

variable (naming : Literal -> Literal)

/-! ## Renaming and the builders -/

theorem renameMembers_eq_map (members : List Alternative) :
    renameMembers naming members = members.map (renameMember naming) := by
  induction members with
  | nil => rfl
  | cons member members inductionHypothesis =>
      rw [renameMembers, inductionHypothesis, List.map_cons]

theorem renameMembers_append (first second : List Alternative) :
    renameMembers naming (first ++ second) =
      renameMembers naming first ++ renameMembers naming second := by
  simp only [renameMembers_eq_map, List.map_append]

theorem members_rename (expr : TypeExpr) :
    (expr.rename naming).members = renameMembers naming expr.members := by
  cases expr <;> rfl

theorem rename_ofMembers (members : List Alternative) :
    (ofMembers members).rename naming = ofMembers (renameMembers naming members) := by
  cases members with
  | nil => rfl
  | cons member members =>
      cases members with
      | nil => cases member <;> rfl
      | cons second members => cases member <;> rfl

theorem rename_close (members : List Alternative) (atom : TypeExpr) :
    (close members atom).rename naming =
      close (renameMembers naming members) (atom.rename naming) := by
  rw [close, rename_ofMembers, renameMembers_append, close, members_rename]

theorem rename_fixedList (elements : List TypeExpr) (tail : TypeExpr) :
    (fixedList elements tail).rename naming =
      fixedList (elements.map (rename naming)) (tail.rename naming) := by
  induction elements with
  | nil => rfl
  | cons element elements inductionHypothesis =>
      change (element.tree (fixedList elements tail)).rename naming = _
      rw [rename, inductionHypothesis]
      rfl

/-! ## Renaming what a state remembers -/

def Bracket.rename : Bracket -> Bracket
  | group => .group
  | left => .left
  | right child => .right (child.rename naming)
  | items done => .items (done.map (TypeExpr.rename naming))

def Frame.rename (frame : Frame) : Frame where
  bracket := frame.bracket.rename naming
  outer := renameMembers naming frame.outer

def Place.rename : Place -> Place
  | atom => .atom
  | listStart => .listStart
  | element done => .element (done.map (TypeExpr.rename naming))
  | openEnd done => .openEnd (done.map (TypeExpr.rename naming))
  | after value => .after (value.rename naming)
  | suffix value => .suffix (value.rename naming)

def State.rename (state : State) : State where
  place := state.place.rename naming
  members := renameMembers naming state.members
  frames := state.frames.map (Frame.rename naming)

/-! ## Renaming and the steps of the reader -/

theorem beginAtom_rename (members : List Alternative) (frames : List Frame) (token : Token) :
    beginAtom (renameMembers naming members) (frames.map (Frame.rename naming))
        (token.rename naming) =
      (beginAtom members frames token).map (State.rename naming) := by
  cases token with
  | literal literal => rfl
  | punct mark => cases mark <;> rfl

theorem beginElement_rename (members : List Alternative) (frames : List Frame)
    (done : List TypeExpr) (token : Token) :
    beginElement (renameMembers naming members) (frames.map (Frame.rename naming))
        (done.map (TypeExpr.rename naming)) (token.rename naming) =
      (beginElement members frames done token).map (State.rename naming) := by
  have begins := beginAtom_rename naming [] (⟨.items done, members⟩ :: frames) token
  cases token with
  | literal literal => exact begins
  | punct mark =>
      cases mark with
      | ellipsis => rfl
      | _ => exact begins

theorem leaveBracket_rename (config : Config) (inner : TypeExpr) (frame : Frame)
    (frames : List Frame) (token : Token) :
    leaveBracket (config.rename naming) (inner.rename naming) (frame.rename naming)
        (frames.map (Frame.rename naming)) (token.rename naming) =
      (leaveBracket config inner frame frames token).map (State.rename naming) := by
  rcases frame with ⟨bracket, outer⟩
  cases token with
  | literal literal => rfl
  | punct mark =>
      cases bracket with
      | items done =>
          cases mark with
          | rbracket =>
              have closed := rename_fixedList naming (done ++ [inner]) (leaf config.listTerminator)
              simp only [leaveBracket, Token.rename, Frame.rename, Bracket.rename, Option.map_some,
                State.rename, Place.rename, closed, List.map_append, List.map_cons, List.map_nil]
              rfl
          | comma =>
              simp only [leaveBracket, Token.rename, Frame.rename, Bracket.rename, Option.map_some,
                State.rename, Place.rename, List.map_append, List.map_cons, List.map_nil]
          | _ => rfl
      | _ => cases mark <;> rfl

theorem followAtom_rename (config : Config) (members : List Alternative) (frames : List Frame)
    (atom : TypeExpr) (token : Token) :
    followAtom (config.rename naming) (renameMembers naming members)
        (frames.map (Frame.rename naming)) (atom.rename naming) (token.rename naming) =
      (followAtom config members frames atom token).map (State.rename naming) := by
  have outward : forall frame outer,
      leaveBracket (config.rename naming) (close (renameMembers naming members) (atom.rename naming))
          (Frame.rename naming frame) (outer.map (Frame.rename naming)) (token.rename naming) =
        (leaveBracket config (close members atom) frame outer token).map (State.rename naming) := by
    intro frame outer
    rw [← rename_close]
    exact leaveBracket_rename naming config (close members atom) frame outer token
  cases token with
  | literal literal =>
      cases frames with
      | nil => rfl
      | cons frame outer => exact outward frame outer
  | punct mark =>
      cases mark with
      | lbracket => rfl
      | bar =>
          simp only [followAtom, Token.rename, Option.map_some, State.rename, Place.rename,
            renameMembers_append, members_rename]
      | _ =>
          cases frames with
          | nil => rfl
          | cons frame outer => exact outward frame outer

theorem accept_rename (config : Config) (state : State) (token : Token) :
    accept (config.rename naming) (state.rename naming) (token.rename naming) =
      (accept config state token).map (State.rename naming) := by
  rcases state with ⟨place, members, frames⟩
  cases place with
  | atom => exact beginAtom_rename naming members frames token
  | listStart =>
      have begins := beginElement_rename naming members frames [] token
      cases token with
      | literal literal => exact begins
      | punct mark =>
          cases mark with
          | rbracket => rfl
          | _ => exact begins
  | element done => exact beginElement_rename naming members frames done token
  | openEnd done =>
      have closed := rename_fixedList naming done (leaf config.openTail)
      cases token with
      | literal literal => rfl
      | punct mark =>
          cases mark with
          | rbracket =>
              simp only [accept, Token.rename, State.rename, Place.rename, Option.map_some, closed]
              rfl
          | _ => rfl
  | after atom => exact followAtom_rename naming config members frames atom token
  | suffix atom =>
      cases token with
      | literal literal => rfl
      | punct mark => cases mark <;> rfl

theorem expected_rename (bracket : Bracket) :
    (bracket.rename naming).expected = bracket.expected.map (Token.rename naming) := by
  cases bracket <;> rfl

theorem demand_rename (state : State) :
    demand (state.rename naming) =
      (demand state).map (Token.rename naming) (TypeExpr.rename naming) := by
  rcases state with ⟨place, members, frames⟩
  cases place with
  | after atom =>
      cases frames with
      | nil => exact congrArg Demand.complete (rename_close naming members atom).symm
      | cons frame frames =>
          have expected := expected_rename naming frame.bracket
          exact congrArg (fun wanted => Demand.token (some wanted)) expected
  | _ => rfl

/-- Renaming carries the reader of a configuration to the reader of the renamed one. -/
def renameTranslation (config : Config) :
    Reader.Translation (reader config) (reader (config.rename naming)) where
  onToken := Token.rename naming
  onState := State.rename naming
  onValue := TypeExpr.rename naming
  start_eq := rfl
  accept_eq := accept_rename naming config
  demand_eq := demand_rename naming

theorem readNext_rename (config : Config) (tokens : List Token) :
    readNext (config.rename naming) (tokens.map (Token.rename naming)) =
      (readNext config tokens).map (Token.rename naming) (TypeExpr.rename naming) := by
  have longest := (renameTranslation naming config).read_eq tokens
  change ((reader (config.rename naming)).read _).settle config.trailing = _
  rw [readNext, ← Reading.settle_map]
  exact congrArg (Reading.settle config.trailing) longest

/-- Renaming the literals of the tokens and of the configuration before a reading is renaming
everything it returns afterwards: the leaves of the expression or the tokens inside the error, and
the tokens that were left. -/
theorem read_rename (config : Config) (tokens : List Token) :
    read (config.rename naming) (tokens.map (Token.rename naming)) =
      (read config tokens).map (Token.rename naming) (TypeExpr.rename naming) := by
  cases tokens with
  | nil => rfl
  | cons token tokens => exact readNext_rename naming config (token :: tokens)

end TypeExpr
end TreeShapes
