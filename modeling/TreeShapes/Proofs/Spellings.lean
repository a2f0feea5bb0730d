import Mathlib.Data.Nat.Digits.Defs
import TreeShapes.Token

namespace TreeShapes

/-!
# Spellings and the tokens they are classified as

A spelling is a mark if it is the spelling of one, a number if it consists of
decimal digits and fits 64 bits, and a name in all other cases.  Marks and names
are written as they were spelled.  A number is written in decimal, and this is
the only place where a spelling can be lost: zeros in front of a number do not
count.

What is written for a number is found by following its digits.  Behind a first
digit other than zero, every further digit of the spelling is one more digit of
the written number; a zero in front changes nothing.  So every spelling of a
number is what is written for it, with some zeros in front, and what is written
for a classified spelling is classified the same.
-/

namespace Token

/-! ## Digits -/

def digitOf (character : Char) : Nat :=
  character.toNat - '0'.toNat

theorem digitOf_bounds {character : Char} (digit : character.isDigit = true) :
    character.toNat = 48 + digitOf character ∧ digitOf character < 10 := by
  have bounds := Char.isDigit_iff_toNat.mp digit
  have zero : '0'.toNat = 48 := rfl
  have nine : '9'.toNat = 57 := rfl
  unfold digitOf
  omega

theorem digitChar_digitOf {character : Char} (digit : character.isDigit = true) :
    (digitOf character).digitChar = character := by
  have bounds := digitOf_bounds digit
  apply Char.toNat_inj.mp
  rw [Nat.toNat_digitChar_of_lt_ten bounds.2, bounds.1]

theorem toDigits_digitOf {character : Char} (digit : character.isDigit = true) :
    Nat.toDigits 10 (digitOf character) = [character] := by
  rw [Nat.toDigits_of_lt_base (digitOf_bounds digit).2, digitChar_digitOf digit]

theorem ofDigitChars_cons_eq (character : Char) (characters : List Char) (value : Nat) :
    Nat.ofDigitChars 10 (character :: characters) value =
      Nat.ofDigitChars 10 characters (10 * value + digitOf character) :=
  Nat.ofDigitChars_cons

section Digits

variable {characters : List Char}

/-- Behind a value other than zero, every digit that is read is a digit that is written. -/
theorem toDigits_ofDigitChars {value : Nat} (positive : 0 < value)
    (digits : forall character, character ∈ characters -> character.isDigit = true) :
    Nat.toDigits 10 (Nat.ofDigitChars 10 characters value) =
      Nat.toDigits 10 value ++ characters := by
  induction characters generalizing value with
  | nil => rw [Nat.ofDigitChars_nil, List.append_nil]
  | cons character characters inductionHypothesis =>
      have parts := List.forall_mem_cons.mp digits
      have larger : 0 < 10 * value + digitOf character := by omega
      have small := (digitOf_bounds parts.1).2
      have written := Nat.toDigits_append_toDigits (by decide) positive small
      rw [ofDigitChars_cons_eq, inductionHypothesis larger parts.2, ← written,
        toDigits_digitOf parts.1, List.append_assoc, List.singleton_append]

theorem ofDigitChars_zeros (zeros : Nat) (characters : List Char) :
    Nat.ofDigitChars 10 (List.replicate zeros '0' ++ characters) 0 =
      Nat.ofDigitChars 10 characters 0 := by
  induction zeros with
  | zero => rfl
  | succ zeros inductionHypothesis =>
      rw [List.replicate_succ, List.cons_append, ofDigitChars_cons_eq]
      exact inductionHypothesis

/-- Digits are what is written for their value, with zeros in front. -/
theorem exists_zeros_append_toDigits (nonempty : characters ≠ [])
    (digits : forall character, character ∈ characters -> character.isDigit = true) :
    exists zeros, characters = List.replicate zeros '0' ++
      Nat.toDigits 10 (Nat.ofDigitChars 10 characters 0) := by
  induction characters with
  | nil => exact absurd rfl nonempty
  | cons character characters inductionHypothesis =>
      have parts := List.forall_mem_cons.mp digits
      rw [ofDigitChars_cons_eq, Nat.mul_zero, Nat.zero_add]
      -- Zeros go one by one while digits follow; all from the first other digit on is written.
      by_cases zero : digitOf character = 0
      · have same : character = '0' := by
          rw [← digitChar_digitOf parts.1, zero]
          rfl
        rw [zero, same]
        by_cases last : characters = []
        · subst last
          exact ⟨0, rfl⟩
        · rcases inductionHypothesis last parts.2 with ⟨zeros, others⟩
          refine ⟨zeros + 1, ?_⟩
          rw [List.replicate_succ, List.cons_append, ← others]
      · refine ⟨0, ?_⟩
        rw [toDigits_ofDigitChars (Nat.pos_of_ne_zero zero) parts.2, toDigits_digitOf parts.1]
        rfl

/-- What is written for a number has a zero in front only if it is that zero. -/
theorem eq_nil_of_toDigits_eq_zero_cons {value : Nat}
    (written : Nat.toDigits 10 value = '0' :: characters) : characters = [] := by
  apply Classical.byContradiction
  intro nonempty
  have digits : forall character, character ∈ characters -> character.isDigit = true := by
    intro character member
    apply Nat.isDigit_of_mem_toDigits (by decide) (Nat.le_refl 10)
    rw [written]
    exact List.mem_cons_of_mem '0' member
  have same : Nat.ofDigitChars 10 characters 0 = value := by
    rw [← ofDigitChars_zeros 1, List.replicate_one, List.singleton_append, ← written]
    exact Nat.ofDigitChars_toDigits (by decide) (Nat.le_refl 10)
  rcases exists_zeros_append_toDigits nonempty digits with ⟨zeros, spelled⟩
  rw [same, written] at spelled
  have lengths := congrArg List.length spelled
  simp only [List.length_append, List.length_replicate, List.length_cons] at lengths
  omega

end Digits

/-! ## Numerals -/

theorem isNumeral_iff {spelling : String} :
    isNumeral spelling = true <->
      spelling.toList ≠ [] ∧
        forall character, character ∈ spelling.toList -> character.isDigit = true := by
  unfold isNumeral
  rw [Bool.and_eq_true_iff, List.all_eq_true, Bool.not_eq_true', List.isEmpty_eq_false_iff]

theorem numeral?_eq_some_iff {spelling : String} {value : UInt64} :
    numeral? spelling = some value <->
      isNumeral spelling = true ∧ numeralValue spelling = value.toNat := by
  unfold numeral?
  split
  · next fits =>
      have parts := Bool.and_eq_true_iff.mp fits
      have small := of_decide_eq_true parts.2
      constructor
      · intro same
        rw [← Option.some.inj same, UInt64.toNat_ofNat_of_lt' small]
        exact ⟨parts.1, rfl⟩
      · intro same
        rw [same.2, UInt64.ofNat_toNat]
  · next unfit =>
      constructor
      · intro same
        cases same
      · intro same
        apply absurd _ unfit
        rw [Bool.and_eq_true_iff]
        refine ⟨same.1, decide_eq_true ?_⟩
        rw [same.2]
        exact value.toNat_lt_size

/-- The spellings of a number are what is written for it, with any number of zeros in front. -/
theorem numeral?_eq_some_iff_zeros {spelling : String} {value : UInt64} :
    numeral? spelling = some value <->
      exists zeros, spelling.toList = List.replicate zeros '0' ++ (int value).text.toList := by
  have written : (int value).text.toList = Nat.toDigits 10 value.toNat := Nat.toList_repr
  rw [numeral?_eq_some_iff, isNumeral_iff, written]
  constructor
  · intro numeral
    rcases exists_zeros_append_toDigits numeral.1.1 numeral.1.2 with ⟨zeros, spelled⟩
    have same : Nat.ofDigitChars 10 spelling.toList 0 = value.toNat := numeral.2
    rw [same] at spelled
    exact ⟨zeros, spelled⟩
  · rintro ⟨zeros, spelled⟩
    rw [numeralValue, spelled]
    refine ⟨⟨?_, ?_⟩, ?_⟩
    · exact List.append_ne_nil_of_right_ne_nil _ Nat.toDigits_ne_nil
    · intro character member
      rcases List.mem_append.mp member with zero | digit
      · rw [List.eq_of_mem_replicate zero]
        decide
      · exact Nat.isDigit_of_mem_toDigits (by decide) (Nat.le_refl 10) digit
    · rw [ofDigitChars_zeros]
      exact Nat.ofDigitChars_toDigits (by decide) (Nat.le_refl 10)

/-- The spelling is a run of decimal digits, and the value counts each of them by its place. -/
structure SpellsNumber (spelling : String) (value : Nat) : Prop where
  nonempty : spelling ≠ ""
  digits : forall character, character ∈ spelling.toList -> '0' ≤ character ∧ character ≤ '9'
  positional : Nat.ofDigits 10 (spelling.toList.reverse.map digitOf) = value

theorem numeralValue_eq_ofDigits (spelling : String) :
    numeralValue spelling = Nat.ofDigits 10 (spelling.toList.reverse.map digitOf) := by
  rw [numeralValue, Nat.ofDigitChars_eq_foldl, Nat.ofDigits_eq_foldr, List.foldr_map,
    List.foldr_reverse]
  congr 1
  funext value character
  exact Nat.add_comm _ _

theorem numeral?_eq_some_iff_spellsNumber {spelling : String} {value : UInt64} :
    numeral? spelling = some value <-> SpellsNumber spelling value.toNat := by
  rw [numeral?_eq_some_iff, isNumeral_iff, numeralValue_eq_ofDigits]
  constructor
  · rintro ⟨⟨nonempty, digits⟩, positional⟩
    refine ⟨?_, ?_, positional⟩
    · rintro rfl
      exact nonempty String.toList_empty
    · intro character member
      exact Char.isDigit_iff_toNat.mp (digits character member)
  · intro spelled
    refine ⟨⟨?_, ?_⟩, spelled.positional⟩
    · intro empty
      exact spelled.nonempty (String.toList_eq_nil_iff.mp empty)
    · intro character member
      exact Char.isDigit_iff_toNat.mpr (spelled.digits character member)

/-- Digits that are no number have a value beyond 64 bits. -/
theorem numeral?_eq_none_iff {spelling : String} :
    numeral? spelling = none <->
      ¬ exists value, value < UInt64.size ∧ SpellsNumber spelling value := by
  constructor
  · rintro absent ⟨value, small, spelled⟩
    have same := UInt64.toNat_ofNat_of_lt' small
    have numeral := numeral?_eq_some_iff_spellsNumber.mpr (same.symm ▸ spelled)
    rw [absent] at numeral
    cases numeral
  · intro unspelled
    apply Option.eq_none_iff_forall_ne_some.mpr
    intro value numeral
    have spelled := numeral?_eq_some_iff_spellsNumber.mp numeral
    exact unspelled ⟨value.toNat, value.toNat_lt_size, spelled⟩

/-! ## Classified spellings -/

theorem numeral?_spelling (mark : Punctuation) : numeral? mark.spelling = none := by
  cases mark <;> rfl

/-- The three ways in which a spelling is classified. -/
theorem classify_cases (spelling : String) :
    (exists mark : Punctuation, spelling = mark.spelling ∧ classify spelling = .punct mark) ∨
    (exists value, numeral? spelling = some value ∧ classify spelling = int value) ∨
    ((forall mark : Punctuation, spelling ≠ mark.spelling) ∧ numeral? spelling = none ∧
      classify spelling = name spelling) := by
  cases found : Punctuation.ofSpelling? spelling with
  | some mark =>
      have same := Punctuation.ofSpelling?_eq_some_iff.mp found
      exact Or.inl ⟨mark, same, classify_eq_punct_iff.mpr same⟩
  | none =>
      have unmarked := Punctuation.ofSpelling?_eq_none_iff.mp found
      cases numeral : numeral? spelling with
      | some value =>
          refine Or.inr (Or.inl ⟨value, rfl, ?_⟩)
          simp only [classify, found, numeral]
      | none =>
          refine Or.inr (Or.inr ⟨unmarked, rfl, ?_⟩)
          simp only [classify, found, numeral]

theorem classify_eq_int_iff {spelling : String} {value : UInt64} :
    classify spelling = int value <-> numeral? spelling = some value := by
  rcases classify_cases spelling with ⟨mark, same, marked⟩ | ⟨own, numeral, counted⟩ |
    ⟨_, numeral, named⟩
  · rw [marked, same, numeral?_spelling]
    exact iff_of_false nofun nofun
  · rw [counted, numeral]
    constructor
    · intro same
      cases same
      rfl
    · intro same
      rw [Option.some.inj same]
  · rw [named, numeral]
    exact iff_of_false nofun nofun

theorem classify_eq_name_iff {spelling text : String} :
    classify spelling = name text <->
      text = spelling ∧ (forall mark : Punctuation, spelling ≠ mark.spelling) ∧
        numeral? spelling = none := by
  rcases classify_cases spelling with ⟨mark, same, marked⟩ | ⟨own, numeral, counted⟩ |
    ⟨unmarked, numeral, named⟩
  · rw [marked]
    apply iff_of_false nofun
    intro other
    exact other.2.1 mark same
  · rw [counted, numeral]
    exact iff_of_false nofun nofun
  · rw [named]
    constructor
    · intro same
      cases same
      exact ⟨rfl, unmarked, numeral⟩
    · intro same
      rw [same.1]

/-- What is written for a number is one of its spellings. -/
theorem numeral?_text_int (value : UInt64) : numeral? (int value).text = some value :=
  numeral?_eq_some_iff_zeros.mpr ⟨0, rfl⟩

/-- What is written for a classified spelling is classified the same. -/
theorem classify_text_classify (spelling : String) :
    classify (classify spelling).text = classify spelling := by
  rcases classify_cases spelling with ⟨mark, same, marked⟩ | ⟨value, numeral, counted⟩ |
    ⟨_, _, named⟩
  · rw [marked]
    exact classify_spelling mark
  · rw [counted]
    exact classify_eq_int_iff.mpr (numeral?_text_int value)
  · rw [named]
    exact named

/-- A zero stands in front of further characters. -/
def HasRedundantZero (spelling : String) : Prop :=
  exists rest, rest ≠ [] ∧ spelling.toList = '0' :: rest

/-- A number is written as it was spelled unless zeros were put in front. -/
theorem text_int_eq_iff {spelling : String} {value : UInt64}
    (numeral : numeral? spelling = some value) :
    (int value).text = spelling <-> ¬ HasRedundantZero spelling := by
  have written : (int value).text.toList = Nat.toDigits 10 value.toNat := Nat.toList_repr
  rcases numeral?_eq_some_iff_zeros.mp numeral with ⟨zeros, spelled⟩
  constructor
  · rintro rfl ⟨rest, nonempty, leading⟩
    rw [written] at leading
    exact nonempty (eq_nil_of_toDigits_eq_zero_cons leading)
  · intro bare
    cases zeros with
    | zero => exact String.toList_injective spelled.symm
    | succ zeros =>
        rw [List.replicate_succ, List.cons_append] at spelled
        apply absurd _ bare
        refine ⟨_, ?_, spelled⟩
        rw [written]
        exact List.append_ne_nil_of_right_ne_nil _ Nat.toDigits_ne_nil

theorem text_classify_eq_iff {spelling : String} :
    (classify spelling).text = spelling <->
      ¬ ((exists value, classify spelling = int value) ∧ HasRedundantZero spelling) := by
  rcases classify_cases spelling with ⟨mark, same, marked⟩ | ⟨value, numeral, counted⟩ |
    ⟨_, _, named⟩
  · rw [marked]
    apply iff_of_true same.symm
    rintro ⟨⟨value, impossible⟩, _⟩
    cases impossible
  · rw [counted, text_int_eq_iff numeral, not_and]
    constructor
    · intro bare _
      exact bare
    · intro bare
      exact bare ⟨value, rfl⟩
  · rw [named]
    apply iff_of_true rfl
    rintro ⟨⟨value, impossible⟩, _⟩
    cases impossible

/-- Classifying a spelling and writing the token are inverse up to zeros in front of a number.  A
spelling is a mark if it spells one, a number if it is a run of digits whose value fits 64 bits, and
a name otherwise.  What is written for it is classified the same, and is the spelling itself unless
that is a number with a redundant zero. -/
theorem classify_text_inverse (spelling : String) :
    (forall mark, classify spelling = .punct mark <-> spelling = mark.spelling) ∧
    (forall value, classify spelling = int value <-> SpellsNumber spelling value.toNat) ∧
    (forall value, classify spelling = int value <->
      exists zeros, spelling.toList = List.replicate zeros '0' ++ (int value).text.toList) ∧
    (forall text, classify spelling = name text <->
      text = spelling ∧ (forall mark : Punctuation, spelling ≠ mark.spelling) ∧
        ¬ exists value, value < UInt64.size ∧ SpellsNumber spelling value) ∧
    classify (classify spelling).text = classify spelling ∧
    ((classify spelling).text = spelling <->
      ¬ ((exists value, classify spelling = int value) ∧ HasRedundantZero spelling)) := by
  refine ⟨?_, ?_, ?_, ?_, classify_text_classify spelling, text_classify_eq_iff⟩
  · intro mark
    exact classify_eq_punct_iff
  · intro value
    rw [classify_eq_int_iff, numeral?_eq_some_iff_spellsNumber]
  · intro value
    rw [classify_eq_int_iff, numeral?_eq_some_iff_zeros]
  · intro text
    rw [classify_eq_name_iff, numeral?_eq_none_iff]

/-- The largest number of 64 bits, with a zero in front, and the first digits beyond it. -/
example : classify "018446744073709551615" = int 18446744073709551615 ∧
    classify "18446744073709551616" = name "18446744073709551616" := by
  decide

end Token
end TreeShapes
