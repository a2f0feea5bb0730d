import TreeShapes.Proofs.TreeGrammar

namespace TreeShapes

/-!
# Literals of the same tree can be exchanged

A tree literal is taken as one unit.  Where a tree is due, also directly behind
the left bracket of a list, its tokens lead to the place behind its tree, and
the brackets around it stay as they are.  Of the literal nothing is left but the
tree.  Everywhere else its first token is refused already, since what begins a
tree neither divides nor closes anything.

Two literals of one tree therefore move every state alike, whatever was read
before them.  An input keeps its tree when one is put in place of the other, and
an input without a tree does not gain one.  Only the error of a refused literal
may change: it names the first token of that literal.
-/

namespace Reader

variable {σ α : Type} (reader : Reader σ α)

/-- Tokens that move every state alike can be exchanged in every accepted list. -/
theorem accepts_exchange_iff {first second : List Token}
    (alike : forall state, reader.advance? state first = reader.advance? state second)
    (before after : List Token) (value : α) :
    reader.Accepts (before ++ first ++ after) value <->
      reader.Accepts (before ++ second ++ after) value := by
  have whole : reader.advance? reader.start (before ++ first ++ after) =
      reader.advance? reader.start (before ++ second ++ after) := by
    simp only [advance?_append, alike]
  unfold Accepts
  rw [whole]

end Reader

namespace BinaryTree

/-! ## A literal moves a state as its tree does -/

theorem leaveBracket_eq_none_of_beginTree {token : Token} {opened brackets : List Bracket}
    {next : State} (begun : beginTree opened token = some next) (tree : BinaryTree)
    (bracket : Bracket) : leaveBracket tree bracket brackets token = none := by
  cases token with
  | literal literal => rfl
  | punct mark =>
      cases mark with
      | langle => cases bracket <;> rfl
      | lbracket => cases bracket <;> rfl
      | _ => cases begun

theorem Spells.advance?_after {tokens : List Token} {tree : BinaryTree}
    (spelled : Spells tokens tree) (earlier : BinaryTree) (brackets : List Bracket) :
    reader.advance? ⟨.after earlier, brackets⟩ tokens = none := by
  rcases List.exists_cons_of_ne_nil spelled.ne_nil with ⟨token, rest, same⟩
  subst same
  have walked := spelled.advance?_eq []
  rw [Reader.advance?, Option.bind_eq_some_iff] at walked
  rcases walked with ⟨next, begun, _⟩
  have refused : reader.accept ⟨.after earlier, brackets⟩ token = none := by
    cases brackets with
    | nil => rfl
    | cons bracket brackets => exact leaveBracket_eq_none_of_beginTree begun earlier bracket
  rw [Reader.advance?, refused, Option.bind_none]

theorem Spells.advance?_congr {first second : List Token} {tree : BinaryTree}
    (firstSpelled : Spells first tree) (secondSpelled : Spells second tree) (state : State) :
    reader.advance? state first = reader.advance? state second := by
  rcases state with ⟨place, brackets⟩
  cases place with
  | due => rw [firstSpelled.advance?_eq, secondSpelled.advance?_eq]
  | listStart =>
      have firstItem := advance?_listStart (firstSpelled.advance?_eq (.items [] :: brackets))
      have secondItem := advance?_listStart (secondSpelled.advance?_eq (.items [] :: brackets))
      rw [firstItem, secondItem]
  | after earlier => rw [firstSpelled.advance?_after, secondSpelled.advance?_after]

/-- If two nonempty token lists are read as the same tree, each can stand for the other anywhere in
an input, be the input well formed or not: it is read as the same tree before and after, or as no
tree both times. -/
theorem parse_exchange_iff {first second : List Token} {tree : BinaryTree}
    (firstNonempty : first ≠ []) (secondNonempty : second ≠ [])
    (firstRead : parse first = .ok tree) (secondRead : parse second = .ok tree)
    (before after : List Token) (whole : BinaryTree) :
    parse (before ++ first ++ after) = .ok whole <->
      parse (before ++ second ++ after) = .ok whole := by
  have nonempty : forall {middle : List Token}, middle ≠ [] -> before ++ middle ++ after ≠ [] := by
    intro middle middleNonempty
    apply List.append_ne_nil_of_left_ne_nil
    exact List.append_ne_nil_of_right_ne_nil before middleNonempty
  have firstSpelled := (parse_eq_ok_iff_of_ne_nil firstNonempty).mp firstRead
  have secondSpelled := (parse_eq_ok_iff_of_ne_nil secondNonempty).mp secondRead
  rw [parse_eq_ok_iff_of_ne_nil (nonempty firstNonempty),
    parse_eq_ok_iff_of_ne_nil (nonempty secondNonempty), ← accepts_iff_spells,
    ← accepts_iff_spells]
  exact reader.accepts_exchange_iff (firstSpelled.advance?_congr secondSpelled) before after whole

theorem parse_keyword_exchanged_for_nodes :
    parse [.punct .lbracket, Token.name "@:=", .punct .comma, Token.name "true", .punct .rbracket] =
      .ok (.node (.node .nil (.node .nil .nil)) (.node (.node .nil .nil) .nil)) ∧
    parse [.punct .lbracket, .punct .langle, Token.name "nil", .punct .dot, .punct .lbracket,
        Token.name "false", .punct .rbracket, .punct .rangle, .punct .comma, Token.name "true",
        .punct .rbracket] =
      .ok (.node (.node .nil (.node .nil .nil)) (.node (.node .nil .nil) .nil)) := by
  have written : parse [.punct .lbracket, Token.name "@:=", .punct .comma, Token.name "true",
      .punct .rbracket] =
        .ok (.node (.node .nil (.node .nil .nil)) (.node (.node .nil .nil) .nil)) := rfl
  have exchanged := parse_exchange_iff (List.cons_ne_nil (Token.name "@:=") [])
    (List.cons_ne_nil (Token.punct .langle) [Token.name "nil", .punct .dot, .punct .lbracket,
      Token.name "false", .punct .rbracket, .punct .rangle]) rfl rfl [.punct .lbracket]
    [.punct .comma, Token.name "true", .punct .rbracket]
    (.node (.node .nil (.node .nil .nil)) (.node (.node .nil .nil) .nil))
  exact ⟨written, exchanged.mp written⟩

end BinaryTree
end TreeShapes
