import TreeShapes.Text.Quoted

namespace TreeShapes
namespace Text

/-!
# Quoted texts tell where they end

A way of writing is *self-delimiting* if what is written determines the value
and the place where it ends, whatever follows.  Numbers are, once a mark behind
them ends their digits.  Characters between quotes are, because a backslash
announces every escape and the letter behind it tells its kind.  A quote ends a
run of them: no escape begins with one, so that the quotes inside a text cannot
be taken for its end.
-/

/-- What is written for a value determines the value and what follows it. -/
def SelfDelimiting {α : Type} (write : α -> List Char) : Prop :=
  forall value other rest more, write value ++ rest = write other ++ more ->
    value = other ∧ rest = more

/-! ## Marks that end a text -/

/-- Two runs without the mark that ends them are told apart by the place of the mark. -/
theorem eq_of_append_cons_eq {stop : Char} {letters others rest more : List Char}
    (absent : stop ∉ letters) (otherAbsent : stop ∉ others)
    (same : letters ++ stop :: rest = others ++ stop :: more) : letters = others ∧ rest = more := by
  induction letters generalizing others with
  | nil =>
      cases others with
      | nil => exact ⟨rfl, (List.cons.inj same).2⟩
      | cons other others =>
          have heads := (List.cons.inj same).1
          subst heads
          exact absurd List.mem_cons_self otherAbsent
  | cons letter letters inductionHypothesis =>
      rw [List.mem_cons, not_or] at absent
      cases others with
      | nil => exact absurd (List.cons.inj same).1.symm absent.1
      | cons other others =>
          rw [List.mem_cons, not_or] at otherAbsent
          have parts := List.cons.inj same
          have tails := inductionHypothesis absent.2 otherAbsent.2 parts.2
          exact ⟨by rw [parts.1, tails.1], tails.2⟩

theorem selfDelimiting_of_stop {α : Type} {write : α -> List Char} {stop : Char}
    (injective : forall value other, write value = write other -> value = other)
    (absent : forall value, stop ∉ write value) :
    SelfDelimiting fun value => write value ++ [stop] := by
  intro value other rest more same
  simp only [List.append_assoc, List.singleton_append] at same
  have parts := eq_of_append_cons_eq (absent value) (absent other) same
  exact ⟨injective value other parts.1, parts.2⟩

/-- A run of values is ended by a mark that none of them begins with. -/
theorem SelfDelimiting.flatMap_stop {α : Type} {write : α -> List Char} {stop : Char}
    (delimited : SelfDelimiting write)
    (begins : forall value rest more, stop :: rest ≠ write value ++ more) :
    SelfDelimiting fun values : List α => values.flatMap write ++ [stop] := by
  intro values
  induction values with
  | nil =>
      intro others rest more same
      cases others with
      | nil => exact ⟨rfl, (List.cons.inj same).2⟩
      | cons other others =>
          simp only [List.flatMap_cons, List.append_assoc] at same
          exact absurd same (begins other _ _)
  | cons value values inductionHypothesis =>
      intro others rest more same
      cases others with
      | nil =>
          simp only [List.flatMap_cons, List.append_assoc] at same
          exact absurd same.symm (begins value _ _)
      | cons other others =>
          simp only [List.flatMap_cons, List.append_assoc] at same
          have heads := delimited value other _ _ same
          have tails := inductionHypothesis others rest more (by simpa using heads.2)
          exact ⟨by rw [heads.1, tails.1], tails.2⟩

/-! ## Digits -/

theorem digitChar_injective {digit other : Nat} (small : digit < 16) (otherSmall : other < 16)
    (same : digit.digitChar = other.digitChar) : digit = other := by
  have distinct : forall first, first < 16 -> forall second, second < 16 ->
      Nat.digitChar first = Nat.digitChar second -> first = second := by
    decide
  exact distinct digit small other otherSmall same

/-- A number of one digit is written unlike any number of several. -/
theorem toDigits_ne_of_lt {base number other : Nat} (large : 1 < base) (short : number < base)
    (long : base <= other) : Nat.toDigits base number ≠ Nat.toDigits base other := by
  intro same
  rw [Nat.toDigits_of_lt_base short, Nat.toDigits_of_base_le large long] at same
  have fronts := List.append_singleton_inj.mp ((List.nil_append _).trans same)
  exact Nat.toDigits_ne_nil fronts.1.symm

/-- Up to base sixteen the digits of a number determine it. -/
theorem toDigits_injective {base : Nat} (large : 1 < base) (small : base <= 16)
    (number other : Nat) (same : Nat.toDigits base number = Nat.toDigits base other) :
    number = other := by
  have positive : 0 < base := Nat.lt_of_succ_lt large
  induction number using Nat.strongRecOn generalizing other with
  | ind number inductionHypothesis =>
      rcases Nat.lt_or_ge number base with short | long
      · rcases Nat.lt_or_ge other base with otherShort | otherLong
        · rw [Nat.toDigits_of_lt_base short, Nat.toDigits_of_lt_base otherShort] at same
          apply digitChar_injective (by omega) (by omega)
          exact (List.cons.inj same).1
        · exact absurd same (toDigits_ne_of_lt large short otherLong)
      · rcases Nat.lt_or_ge other base with otherShort | otherLong
        · exact absurd same.symm (toDigits_ne_of_lt large otherShort long)
        · rw [Nat.toDigits_of_base_le large long, Nat.toDigits_of_base_le large otherLong] at same
          have parts := List.append_singleton_inj.mp same
          have smaller : number / base < number :=
            Nat.div_lt_self (Nat.lt_of_lt_of_le positive long) large
          have fronts := inductionHypothesis (number / base) smaller (other / base) parts.1
          have lastSmall := Nat.mod_lt number positive
          have otherLastSmall := Nat.mod_lt other positive
          have lasts := digitChar_injective (by omega) (by omega) parts.2
          rw [← Nat.div_add_mod number base, fronts, lasts, Nat.div_add_mod]

theorem exists_digitChar_of_mem_toDigits {base : Nat} (large : 1 < base) {number : Nat}
    {letter : Char} (written : letter ∈ Nat.toDigits base number) :
    exists digit : Nat, letter = digit.digitChar := by
  induction number using Nat.strongRecOn with
  | ind number inductionHypothesis =>
      rcases Nat.lt_or_ge number base with short | long
      · rw [Nat.toDigits_of_lt_base short, List.mem_singleton] at written
        exact ⟨number, written⟩
      · rw [Nat.toDigits_of_base_le large long, List.mem_append, List.mem_singleton] at written
        have positive : 0 < number := by omega
        rcases written with early | last
        · exact inductionHypothesis (number / base) (Nat.div_lt_self positive large) early
        · exact ⟨number % base, last⟩

/-- A mark that is no digit ends a number. -/
theorem selfDelimiting_toDigits {base : Nat} (large : 1 < base) (small : base <= 16) {stop : Char}
    (noDigit : forall digit : Nat, digit.digitChar ≠ stop) :
    SelfDelimiting fun number => Nat.toDigits base number ++ [stop] := by
  apply selfDelimiting_of_stop (toDigits_injective large small)
  intro number written
  rcases exists_digitChar_of_mem_toDigits large written with ⟨digit, same⟩
  exact noDigit digit same.symm

/-! ## Escaped characters -/

/-- The characters with a short escape, each with the letter that stands behind the backslash. -/
def shortEscapes : List (Char × Char) :=
  [('\x22', '\x22'), ('\x5c', '\x5c'), ('\x00', '0'), ('\x09', 't'), ('\x0a', 'n'),
    ('\x0d', 'r')]

/-- What stands behind a backslash for a character: a letter, or the code point between braces. -/
inductive EscapedBy : Char -> List Char -> Prop
  | short {char letter : Char} (listed : (char, letter) ∈ shortEscapes) : EscapedBy char [letter]
  | codePoint (char : Char) :
      EscapedBy char ('u' :: '\x7b' :: (Nat.toDigits 16 char.toNat ++ ['\x7d']))

theorem escape_of_listed {char letter : Char} (listed : (char, letter) ∈ shortEscapes) :
    (escape char).toList = ['\x5c', letter] := by
  have written : forall pair, pair ∈ shortEscapes ->
      (escape pair.1).toList = ['\x5c', pair.2] := by
    decide
  exact written (char, letter) listed

theorem escape_of_unlisted {char : Char} (unlisted : forall letter, (char, letter) ∉ shortEscapes) :
    escape char = if isUnprintable char then codePoint char else char.toString := by
  simp only [shortEscapes, List.mem_cons, Prod.mk.injEq, List.not_mem_nil, or_false, not_or,
    not_and'] at unlisted
  simp [escape, unlisted]

/-- A character appears behind a backslash or as it is, and the two characters that mean something
between quotes do not appear as they are. -/
theorem escape_cases (char : Char) :
    (exists code, EscapedBy char code ∧ (escape char).toList = '\x5c' :: code) ∨
    (char ≠ '\x22' ∧ char ≠ '\x5c' ∧ (escape char).toList = [char]) := by
  by_cases short : exists letter, (char, letter) ∈ shortEscapes
  · rcases short with ⟨letter, listed⟩
    exact Or.inl ⟨[letter], .short listed, escape_of_listed listed⟩
  · have unlisted : forall letter, (char, letter) ∉ shortEscapes := not_exists.mp short
    rw [escape_of_unlisted unlisted]
    by_cases unprintable : isUnprintable char = true
    · rw [if_pos unprintable]
      exact Or.inl ⟨_, .codePoint char, by simp [codePoint]⟩
    · rw [if_neg unprintable]
      refine Or.inr ⟨?_, ?_, by simp⟩
      · intro same
        subst same
        exact unlisted '\x22' (by decide)
      · intro same
        subst same
        exact unlisted '\x5c' (by decide)

theorem eq_of_listed {char other letter : Char} (listed : (char, letter) ∈ shortEscapes)
    (otherListed : (other, letter) ∈ shortEscapes) : char = other := by
  have distinct : forall pair, pair ∈ shortEscapes -> forall another, another ∈ shortEscapes ->
      pair.2 = another.2 -> pair.1 = another.1 := by
    decide
  exact distinct (char, letter) listed (other, letter) otherListed rfl

/-- The letter that announces a code point belongs to no short escape. -/
theorem unlisted_u (char : Char) : (char, 'u') ∉ shortEscapes := by
  have different : forall pair, pair ∈ shortEscapes -> pair.2 ≠ 'u' := by
    decide
  intro listed
  exact different (char, 'u') listed rfl

theorem EscapedBy.eq_of_append_eq {char other : Char} {code otherCode rest more : List Char}
    (escaped : EscapedBy char code) (otherEscaped : EscapedBy other otherCode)
    (same : code ++ rest = otherCode ++ more) : char = other ∧ rest = more := by
  cases escaped with
  | short listed =>
      cases otherEscaped with
      | short otherListed =>
          have parts := List.cons.inj same
          rw [← parts.1] at otherListed
          exact ⟨eq_of_listed listed otherListed, parts.2⟩
      | codePoint =>
          rw [(List.cons.inj same).1] at listed
          exact absurd listed (unlisted_u char)
  | codePoint =>
      cases otherEscaped with
      | short otherListed =>
          rw [← (List.cons.inj same).1] at otherListed
          exact absurd otherListed (unlisted_u other)
      | codePoint =>
          have noDigit : forall digit : Nat, digit.digitChar ≠ '\x7d' := by
            intro digit
            exact Nat.digitChar_ne _ (by decide)
          have digits := (List.cons.inj (List.cons.inj same).2).2
          have codes := selfDelimiting_toDigits (by decide) (Nat.le_refl 16) noDigit _ _ _ _ digits
          exact ⟨Char.toNat_inj.mp codes.1, codes.2⟩

theorem selfDelimiting_escape : SelfDelimiting fun char => (escape char).toList := by
  intro char other rest more same
  rcases escape_cases char with ⟨code, escaped, written⟩ | ⟨_, plain, written⟩
  · rcases escape_cases other with ⟨otherCode, otherEscaped, otherWritten⟩ |
      ⟨_, otherPlain, otherWritten⟩
    · simp only [written, otherWritten, List.cons_append, List.cons.injEq, true_and] at same
      exact escaped.eq_of_append_eq otherEscaped same
    · simp only [written, otherWritten, List.cons_append, List.cons.injEq] at same
      exact absurd same.1.symm otherPlain
  · rcases escape_cases other with ⟨otherCode, otherEscaped, otherWritten⟩ |
      ⟨_, otherPlain, otherWritten⟩
    · simp only [written, otherWritten, List.cons_append, List.cons.injEq] at same
      exact absurd same.1 plain
    · simp only [written, otherWritten, List.cons_append, List.nil_append, List.cons.injEq] at same
      exact same

/-- A quote inside a text is escaped, so none of its characters appears with a quote in front. -/
theorem quote_ne_escape_append (char : Char) (rest more : List Char) :
    '\x22' :: rest ≠ (escape char).toList ++ more := by
  intro same
  rcases escape_cases char with ⟨code, _, written⟩ | ⟨noQuote, _, written⟩
  · rw [written] at same
    cases (List.cons.inj same).1
  · rw [written] at same
    exact noQuote (List.cons.inj same).1.symm

/-! ## Quoted texts -/

theorem toList_quote (text : String) :
    (quote text).toList =
      '\x22' :: (text.toList.flatMap (fun char => (escape char).toList) ++ ['\x22']) := by
  rw [quote, String.toList_append, String.toList_append, String.toList_join, List.flatMap_map]
  rfl

/-- A quoted text determines itself and where it ends, whatever the text holds. -/
theorem selfDelimiting_quote : SelfDelimiting fun text => (quote text).toList := by
  intro text other rest more same
  have run := selfDelimiting_escape.flatMap_stop quote_ne_escape_append
  simp only [toList_quote, List.cons_append, List.cons.injEq, true_and] at same
  have parts := run text.toList other.toList rest more same
  exact ⟨String.toList_injective parts.1, parts.2⟩

end Text
end TreeShapes
