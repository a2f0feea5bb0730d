import TreeShapes.CommandLine.Run
import TreeShapes.Proofs.QuotedText

namespace TreeShapes

/-!
# Outlines determine their expressions

Both layouts of an outline can be read in one way only.  The first letter of an
outline names the constructor, literals end with marks of their own, and behind
a member the layout shows whether another one follows: on one line by a comma,
on several lines by how far the next line is indented.

The texts that an outline consists of stand in front of the texts that follow
it.  So the induction over expressions carries what follows along: if two
outlines and what follows them are written alike, the expressions are equal and
so is what follows.
-/

/-! ## Texts put one after the other -/

/-- The characters of pieces of text, one piece after the other. -/
def letters (pieces : List String) : List Char :=
  (String.join pieces).toList

theorem letters_cons (piece : String) (pieces : List String) :
    letters (piece :: pieces) = piece.toList ++ letters pieces := by
  rw [letters, String.join_cons, String.toList_append, letters]

@[simp] theorem letters_cons_inj {piece : String} {pieces others : List String} :
    letters (piece :: pieces) = letters (piece :: others) <-> letters pieces = letters others := by
  rw [letters_cons, letters_cons, List.append_right_inj]

theorem head?_letters_cons {piece : String} {letter : Char}
    (first : piece.toList.head? = some letter) (pieces : List String) :
    (letters (piece :: pieces)).head? = some letter := by
  rw [letters_cons, List.head?_append, first, Option.some_or]

/-! ## What a layout shows -/

namespace Layout

/-- What follows a bracket ends the text before it: with the bracket itself on one line, with a
comma on several. -/
theorem exists_stop (layout : Layout) (depth : Nat) :
    exists stop tail, (forall digit : Nat, digit.digitChar ≠ stop) ∧
      forall pieces, letters (layout.closing depth :: ")" :: pieces) =
        stop :: (tail ++ letters pieces) := by
  cases layout with
  | compact =>
      refine ⟨')', [], ?_, ?_⟩
      · intro digit
        exact Nat.digitChar_ne _ (by decide)
      · intro pieces
        rw [letters_cons, letters_cons]
        rfl
  | indented =>
      refine ⟨',', '\n' :: ((indentation depth).toList ++ [')']), ?_, ?_⟩
      · intro digit
        exact Nat.digitChar_ne _ (by decide)
      · intro pieces
        rw [letters_cons, letters_cons, closing, String.toList_append]
        simp

/-- Behind a member it shows whether the bracket is closed or another member follows. -/
theorem letters_closing_ne_between (layout : Layout) (depth : Nat) (pieces others : List String) :
    letters (layout.closing depth :: "]" :: pieces) ≠ letters (layout.between depth :: others) := by
  intro same
  rw [letters_cons, letters_cons, letters_cons] at same
  cases layout with
  | compact =>
      simp [closing, between] at same
  | indented =>
      have blanks : List.replicate (4 * (depth + 1)) ' ' =
          List.replicate (4 * depth) ' ' ++ List.replicate 4 ' ' := by
        rw [List.replicate_append_replicate]
        rfl
      simp only [closing, between, indentation, String.toList_append, String.toList_ofList, blanks,
        List.append_assoc, List.append_cancel_left_eq] at same
      cases same

end Layout

/-! ## Literals -/

namespace Literal

/-- The letter that the outline of a literal begins with. -/
def initial : Literal -> Char
  | name _ => 'N'
  | int _ => 'I'

theorem head?_outline (layout : Layout) (depth : Nat) (literal : Literal) (rest : List String) :
    (letters (literal.outline layout depth rest)).head? = some literal.initial := by
  cases literal <;> exact head?_letters_cons rfl _

theorem outline_injective {layout : Layout} {depth : Nat} {literal other : Literal}
    {rest more : List String}
    (same : letters (literal.outline layout depth rest) = letters (other.outline layout depth more)) :
    literal = other ∧ letters rest = letters more := by
  have initials : some literal.initial = some other.initial := by
    rw [← head?_outline layout depth literal rest, same, head?_outline]
  cases literal with
  | name text =>
      cases other with
      | name otherText =>
          simp only [outline, letters_cons_inj] at same
          rw [letters_cons, letters_cons (Text.quote otherText)] at same
          have texts := Text.selfDelimiting_quote text otherText _ _ same
          simp only [letters_cons_inj] at texts
          exact ⟨by rw [texts.1], texts.2⟩
      | int value => cases initials
  | int value =>
      cases other with
      | name text => cases initials
      | int otherValue =>
          rcases layout.exists_stop depth with ⟨stop, tail, noDigit, closed⟩
          simp only [outline, letters_cons_inj] at same
          rw [letters_cons, letters_cons otherValue.toNat.repr, closed, closed, Nat.toList_repr,
            Nat.toList_repr] at same
          have delimited : Text.SelfDelimiting fun number => Nat.toDigits 10 number ++ [stop] :=
            Text.selfDelimiting_toDigits (by decide) (by decide) noDigit
          have numbers := delimited value.toNat otherValue.toNat (tail ++ letters rest)
            (tail ++ letters more)
            (by simpa only [List.append_assoc, List.singleton_append] using same)
          have values : value = otherValue := UInt64.toNat_inj.mp numbers.1
          exact ⟨by rw [values], List.append_cancel_left numbers.2⟩

end Literal

/-! ## Expressions -/

namespace TypeExpr

/-- The letter that the outline of an expression begins with. -/
def initial : TypeExpr -> Char
  | choice _ => 'C'
  | list _ => 'L'
  | tree _ _ => 'T'

def initialOfAlternative : Alternative -> Char
  | .leaf _ => 'L'
  | .node _ => 'N'

theorem head?_outline (layout : Layout) (depth : Nat) (expr : TypeExpr) (rest : List String) :
    (letters (outline layout depth expr rest)).head? = some expr.initial := by
  cases expr with
  | choice members => cases members <;> exact head?_letters_cons rfl _
  | list element => exact head?_letters_cons rfl _
  | tree left right => exact head?_letters_cons rfl _

theorem head?_outlineAlternative (layout : Layout) (depth : Nat) (alternative : Alternative)
    (rest : List String) :
    (letters (outlineAlternative layout depth alternative rest)).head? =
      some (initialOfAlternative alternative) := by
  cases alternative <;> exact head?_letters_cons rfl _

theorem initial_eq {layout : Layout} {depth : Nat} {expr other : TypeExpr} {rest more : List String}
    (same : letters (outline layout depth expr rest) = letters (outline layout depth other more)) :
    expr.initial = other.initial := by
  have heads := congrArg List.head? same
  rw [head?_outline, head?_outline] at heads
  exact Option.some.inj heads

/-- A bracket with a member in it is not closed at once. -/
theorem letters_empty_ne_member (layout : Layout) (depth inner : Nat) (member : Alternative)
    (rest more : List String) :
    letters ("[]" :: rest) ≠
      letters ("[" :: layout.opening depth :: outlineAlternative layout inner member more) := by
  intro same
  rw [letters_cons, letters_cons] at same
  have behind : ']' :: letters rest =
      letters (layout.opening depth :: outlineAlternative layout inner member more) :=
    (List.cons.inj same).2
  have heads := congrArg List.head? behind
  cases layout with
  | compact =>
      rw [letters_cons] at heads
      change some ']' = (letters (outlineAlternative .compact inner member more)).head? at heads
      rw [head?_outlineAlternative] at heads
      cases member <;> cases heads
  | indented =>
      have newline : (Layout.opening depth .indented).toList.head? = some '\n' := by
        rw [Layout.opening, String.toList_append]
        rfl
      rw [head?_letters_cons newline, List.head?_cons] at heads
      cases heads

mutual

/-- Equal outlines, with whatever follows them, have equal expressions and equal continuations. -/
theorem outline_injective (layout : Layout) :
    forall (expr other : TypeExpr) (depth : Nat) (rest more : List String),
      letters (outline layout depth expr rest) = letters (outline layout depth other more) ->
        expr = other ∧ letters rest = letters more
  | choice [], other, depth, rest, more, same => by
      have initials := initial_eq same
      cases other with
      | choice others =>
          cases others with
          | nil =>
              simp only [outline, letters_cons_inj] at same
              exact ⟨rfl, same⟩
          | cons otherMember others =>
              simp only [outline, letters_cons_inj] at same
              exact absurd same (letters_empty_ne_member _ _ _ _ _ _)
      | list element => cases initials
      | tree left right => cases initials
  | choice (member :: members), other, depth, rest, more, same => by
      have initials := initial_eq same
      cases other with
      | choice others =>
          cases others with
          | nil =>
              simp only [outline, letters_cons_inj] at same
              exact absurd same.symm (letters_empty_ne_member _ _ _ _ _ _)
          | cons otherMember others =>
              simp only [outline, letters_cons_inj] at same
              have first := outlineAlternative_injective layout member otherMember _ _ _ same
              have later := outlineMembers_injective layout members others _ _ _ first.2
              simp only [letters_cons_inj] at later
              exact ⟨by rw [first.1, later.1], later.2⟩
      | list element => cases initials
      | tree left right => cases initials
  | list element, other, depth, rest, more, same => by
      have initials := initial_eq same
      cases other with
      | choice members => cases initials
      | list otherElement =>
          simp only [outline, letters_cons_inj] at same
          have elements := outline_injective layout element otherElement _ _ _ same
          simp only [letters_cons_inj] at elements
          exact ⟨by rw [elements.1], elements.2⟩
      | tree left right => cases initials
  | tree left right, other, depth, rest, more, same => by
      have initials := initial_eq same
      cases other with
      | choice members => cases initials
      | list element => cases initials
      | tree otherLeft otherRight =>
          simp only [outline, letters_cons_inj] at same
          have lefts := outline_injective layout left otherLeft _ _ _ same
          simp only [letters_cons_inj] at lefts
          have rights := outline_injective layout right otherRight _ _ _ lefts.2
          simp only [letters_cons_inj] at rights
          exact ⟨by rw [lefts.1, rights.1], rights.2⟩

theorem outlineAlternative_injective (layout : Layout) :
    forall (alternative other : Alternative) (depth : Nat) (rest more : List String),
      letters (outlineAlternative layout depth alternative rest) =
          letters (outlineAlternative layout depth other more) ->
        alternative = other ∧ letters rest = letters more
  | .leaf literal, other, depth, rest, more, same => by
      have initials := congrArg List.head? same
      rw [head?_outlineAlternative, head?_outlineAlternative] at initials
      cases other with
      | leaf otherLiteral =>
          simp only [outlineAlternative, letters_cons_inj] at same
          have literals := Literal.outline_injective same
          simp only [letters_cons_inj] at literals
          exact ⟨by rw [literals.1], literals.2⟩
      | node expr => cases initials
  | .node expr, other, depth, rest, more, same => by
      have initials := congrArg List.head? same
      rw [head?_outlineAlternative, head?_outlineAlternative] at initials
      cases other with
      | leaf literal => cases initials
      | node otherExpr =>
          simp only [outlineAlternative, letters_cons_inj] at same
          have exprs := outline_injective layout expr otherExpr _ _ _ same
          simp only [letters_cons_inj] at exprs
          exact ⟨by rw [exprs.1], exprs.2⟩

theorem outlineMembers_injective (layout : Layout) :
    forall (members others : List Alternative) (depth : Nat) (rest more : List String),
      letters (outlineMembers layout depth members (layout.closing depth :: "]" :: rest)) =
          letters (outlineMembers layout depth others (layout.closing depth :: "]" :: more)) ->
        members = others ∧ letters rest = letters more
  | [], others, depth, rest, more, same => by
      cases others with
      | nil =>
          simp only [outlineMembers, letters_cons_inj] at same
          exact ⟨rfl, same⟩
      | cons other others =>
          simp only [outlineMembers] at same
          exact absurd same (layout.letters_closing_ne_between depth _ _)
  | member :: members, others, depth, rest, more, same => by
      cases others with
      | nil =>
          simp only [outlineMembers] at same
          exact absurd same.symm (layout.letters_closing_ne_between depth _ _)
      | cons other others =>
          simp only [outlineMembers, letters_cons_inj] at same
          have first := outlineAlternative_injective layout member other _ _ _ same
          have later := outlineMembers_injective layout members others _ _ _ first.2
          exact ⟨by rw [first.1, later.1], later.2⟩

end

theorem text_injective {layout : Layout} {expr other : TypeExpr}
    (same : expr.text layout = other.text layout) : expr = other := by
  have written : letters (expr.outline layout 0 []) = letters (other.outline layout 0 []) :=
    congrArg String.toList same
  exact (outline_injective layout expr other 0 [] [] written).1

/-- The command prints the indented outline of the expression that it read. -/
theorem exists_parse_of_runType {strict : Bool} {spellings : List String} {output : String}
    (printed : CommandLine.runType strict spellings = .ok output) :
    exists expr, output = expr.text .indented ++ "\n" ∧
      parse (if strict then .strict else .standard) (spellings.map Token.classify) = .ok expr := by
  unfold CommandLine.runType at printed
  cases result : parse (if strict then .strict else .standard) (spellings.map Token.classify) with
  | error error =>
      simp only [result] at printed
      cases printed
  | ok expr =>
      simp only [result] at printed
      cases printed
      exact ⟨expr, rfl, rfl⟩

/-- Expressions with the same text in either layout are equal, whatever their names contain.  So
two runs of the command that print the same have read the same expression. -/
theorem outline_determines_expr (expr other : TypeExpr) :
    (expr.text .compact = other.text .compact -> expr = other) ∧
    (expr.text .indented = other.text .indented -> expr = other) ∧
    (forall strict otherStrict spellings others output,
      CommandLine.runType strict spellings = .ok output ->
      CommandLine.runType otherStrict others = .ok output ->
        exists result,
          parse (if strict then .strict else .standard) (spellings.map Token.classify) =
            .ok result ∧
          parse (if otherStrict then .strict else .standard) (others.map Token.classify) =
            .ok result) := by
  refine ⟨text_injective, text_injective, ?_⟩
  intro strict otherStrict spellings others output printed otherPrinted
  rcases exists_parse_of_runType printed with ⟨first, written, parsed⟩
  rcases exists_parse_of_runType otherPrinted with ⟨second, otherWritten, otherParsed⟩
  have texts : first.text .indented = second.text .indented := by
    apply String.toList_injective
    have lines := congrArg String.toList (written.symm.trans otherWritten)
    rw [String.toList_append, String.toList_append] at lines
    exact List.append_cancel_right lines
  have exprs : first = second := text_injective texts
  rw [exprs] at parsed
  exact ⟨second, parsed, otherParsed⟩

/-- A name that ends like an outline and goes on like another one is not taken for two names, and a
group and a leftover token leave no trace in what is printed. -/
theorem outline_of_name_like_outline :
    (leaf (.name "a\")), Leaf(Name(\"b")).text .compact ≠
      (choice [.leaf (.name "a"), .leaf (.name "b")]).text .compact ∧
    exists result,
      parse .strict (["(", "a\"", ")"].map Token.classify) = .ok result ∧
      parse .standard (["a\"", ")"].map Token.classify) = .ok result := by
  constructor
  · intro same
    have exprs := (outline_determines_expr _ _).1 same
    exact absurd exprs (by decide)
  · exact (outline_determines_expr (leaf (.name "a")) (leaf (.name "a"))).2.2 true false
      ["(", "a\"", ")"] ["a\"", ")"] _ rfl rfl

end TypeExpr

end TreeShapes
