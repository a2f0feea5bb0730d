import TreeShapes.CommandLine.Arguments

namespace TreeShapes
namespace CommandLine

/-!
# Every token list can be passed to a command

A command looks for options in front of its first token only.  A single `--`
ends the search, so any tokens at all can follow it.  Without it, the first
argument decides: unless it is `--` or one of the command's options, every
argument is a token, the later ones whatever they look like.

Which arguments are options is said here by their spelling, and compared with
the shapes by which the commands recognise them.  A long option counts also
where a value is attached to it, although no option takes one.  A letter counts
also where it is repeated.
-/

/-! ## The spelling of options -/

/-- The argument gives the option of this name, alone or with a value behind an equals sign. -/
def GivesOption (name argument : String) : Prop :=
  argument = "--" ++ name ∨ ("--" ++ name ++ "=").toList <+: argument.toList

/-- The argument asks for help, by the long option or by one or more letters behind a hyphen. -/
def AsksForHelp (argument : String) : Prop :=
  GivesOption "help" argument ∨
    exists count, argument.toList = '-' :: List.replicate (count + 1) 'h'

instance (name argument : String) : Decidable (GivesOption name argument) :=
  inferInstanceAs (Decidable (_ ∨ _))

theorem givesOption_iff {name argument : String} :
    GivesOption name argument <->
      exists characters, argument.toList = '-' :: '-' :: characters ∧
        (characters = name.toList ∨ name.toList ++ ['='] <+: characters) := by
  have alone : ("--" ++ name).toList = '-' :: '-' :: name.toList := by simp
  have valued : ("--" ++ name ++ "=").toList = '-' :: '-' :: (name.toList ++ ['=']) := by simp
  unfold GivesOption
  rw [← String.toList_inj, alone, valued]
  constructor
  · rintro (equal | ⟨value, equal⟩)
    · exact ⟨name.toList, equal, Or.inl rfl⟩
    · exact ⟨_, equal.symm, Or.inr (List.prefix_append _ _)⟩
  · rintro ⟨characters, spelled, equal | begins⟩
    · rw [spelled, equal]
      exact Or.inl rfl
    · rw [spelled]
      exact Or.inr (List.cons_prefix_cons.mpr ⟨rfl, List.cons_prefix_cons.mpr ⟨rfl, begins⟩⟩)

/-- A text is cut at its first equals sign, if it has one. -/
theorem takeWhile_ne_equals_eq_iff {letters characters : List Char} (plain : '=' ∉ letters) :
    (characters.takeWhile fun char => char != '=') = letters <->
      characters = letters ∨ letters ++ ['='] <+: characters := by
  induction characters generalizing letters with
  | nil => simp
  | cons char rest inductionHypothesis =>
      by_cases sign : char = '='
      · subst sign
        cases letters with
        | nil => simp
        | cons letter others =>
            have other := List.ne_of_not_mem_cons plain
            simp [other, other.symm]
      · cases letters with
        | nil => simp [sign, Ne.symm sign]
        | cons letter others =>
            have kept : (char != '=') = true := bne_iff_ne.mpr sign
            have known := inductionHypothesis (List.not_mem_of_not_mem_cons plain)
            rw [List.takeWhile_cons, if_pos kept, List.cons_append, List.cons_prefix_cons,
              List.cons_eq_cons, List.cons_eq_cons, known, and_or_left, @eq_comm _ letter char]

theorem attachedValue?_eq_none_iff {characters : List Char} :
    attachedValue? characters = none <->
      (characters.takeWhile fun char => char != '=') = characters := by
  have joined := @List.takeWhile_append_dropWhile Char (fun char => char != '=') characters
  unfold attachedValue?
  split
  · next nothing =>
      rw [nothing, List.append_nil] at joined
      exact ⟨fun _ => joined, fun _ => rfl⟩
  · next sign value cut =>
      rw [cut] at joined
      constructor
      · intro none
        cases none
      · intro whole
        rw [whole] at joined
        cases List.append_right_eq_self.mp joined

/-! ## The shape of options -/

namespace Shape

variable {argument name : String}

/-- The long option of this name, whatever value it has. -/
def isOption (name : String) : Shape -> Bool
  | long given _ => given == name
  | _ => false

/-- Nothing but letters that ask for help. -/
def isHelpLetters : Shape -> Bool
  | short letter others => (letter :: others).all fun char => char == 'h'
  | _ => false

def isHelp (shape : Shape) : Bool :=
  shape.isOption "help" || shape.isHelpLetters

theorem of_eq_separator_iff : Shape.of argument = .separator <-> argument = "--" := by
  constructor
  · intro separates
    unfold Shape.of at separates
    split at separates
    · next spelled => exact String.toList_inj.mp spelled
    all_goals cases separates
  · intro equal
    subst equal
    rfl

theorem of_eq_long_iff {value? : Option String} :
    Shape.of argument = .long name value? <->
      exists characters, argument.toList = '-' :: '-' :: characters ∧ characters ≠ [] ∧
        (characters.takeWhile fun char => char != '=') = name.toList ∧
        attachedValue? characters = value? := by
  constructor
  · intro long
    unfold Shape.of at long
    split at long
    · cases long
    · next characters more spelled =>
        cases long
        exact ⟨characters, spelled, more, String.toList_ofList.symm, rfl⟩
    · cases long
    · cases long
  · rintro ⟨characters, spelled, more, named, value⟩
    have text : String.ofList (characters.takeWhile fun char => char != '=') = name := by
      rw [named, String.ofList_toList]
    unfold Shape.of
    rw [spelled, ← text, ← value]
    cases characters with
    | nil => exact absurd rfl more
    | cons char rest => rfl

theorem of_eq_short_iff {letter : Char} {others : List Char} :
    Shape.of argument = .short letter others <->
      argument.toList = '-' :: letter :: others ∧ letter ≠ '-' := by
  constructor
  · intro short
    unfold Shape.of at short
    split at short
    · cases short
    · cases short
    · next single spelled =>
        cases short
        exact ⟨spelled, single⟩
    · cases short
  · rintro ⟨spelled, single⟩
    unfold Shape.of
    rw [spelled]
    split
    · next equal =>
        cases equal
        exact absurd rfl single
    · next equal =>
        cases equal
        exact absurd rfl single
    · next equal =>
        cases equal
        rfl
    · next noLetter => exact absurd rfl (noLetter letter others)

theorem isOption_of_iff (named : name ≠ "") (plain : '=' ∉ name.toList) :
    (Shape.of argument).isOption name = true <-> GivesOption name argument := by
  rw [givesOption_iff]
  constructor
  · intro given
    cases shape : Shape.of argument with
    | long other value? =>
        rw [shape] at given
        have same : other = name := eq_of_beq given
        rw [same] at shape
        rcases of_eq_long_iff.mp shape with ⟨characters, spelled, _, cut, _⟩
        exact ⟨characters, spelled, (takeWhile_ne_equals_eq_iff plain).mp cut⟩
    | _ =>
        rw [shape] at given
        cases given
  · rintro ⟨characters, spelled, form⟩
    have cut := (takeWhile_ne_equals_eq_iff plain).mpr form
    have more : characters ≠ [] := by
      intro nothing
      subst nothing
      exact named (String.toList_eq_nil_iff.mp cut.symm)
    rw [of_eq_long_iff.mpr ⟨characters, spelled, more, cut, rfl⟩]
    exact beq_self_eq_true name

/-- Without a value, a long option is its name behind two hyphens. -/
theorem of_eq_long_none_iff (named : name ≠ "") (plain : '=' ∉ name.toList) :
    Shape.of argument = .long name none <-> argument = "--" ++ name := by
  have hyphens : ("--" ++ name).toList = '-' :: '-' :: name.toList := by simp
  rw [← String.toList_inj, hyphens, of_eq_long_iff]
  constructor
  · rintro ⟨characters, spelled, _, cut, noValue⟩
    rw [spelled, ← cut, attachedValue?_eq_none_iff.mp noValue]
  · intro spelled
    have whole := (takeWhile_ne_equals_eq_iff plain).mpr (Or.inl rfl)
    have more : name.toList ≠ [] := by
      intro nothing
      exact named (String.toList_eq_nil_iff.mp nothing)
    exact ⟨name.toList, spelled, more, whole, attachedValue?_eq_none_iff.mpr whole⟩

theorem isHelpLetters_of_iff :
    (Shape.of argument).isHelpLetters = true <->
      exists count, argument.toList = '-' :: List.replicate (count + 1) 'h' := by
  constructor
  · intro letters
    cases shape : Shape.of argument with
    | short letter others =>
        rw [shape] at letters
        have spelled := (of_eq_short_iff.mp shape).1
        have same : letter :: others = List.replicate (others.length + 1) 'h' := by
          apply List.eq_replicate_iff.mpr
          refine ⟨rfl, ?_⟩
          intro char member
          exact eq_of_beq (List.all_eq_true.mp letters char member)
        exact ⟨others.length, spelled.trans (congrArg _ same)⟩
    | _ =>
        rw [shape] at letters
        cases letters
  · rintro ⟨count, spelled⟩
    have shape : Shape.of argument = .short 'h' (List.replicate count 'h') :=
      of_eq_short_iff.mpr ⟨spelled, by decide⟩
    rw [shape]
    simp [isHelpLetters]

theorem isHelp_of_iff : (Shape.of argument).isHelp = true <-> AsksForHelp argument := by
  unfold isHelp AsksForHelp
  rw [Bool.or_eq_true, isOption_of_iff (by decide) (by decide), isHelpLetters_of_iff]

end Shape

instance (argument : String) : Decidable (AsksForHelp argument) :=
  decidable_of_iff _ Shape.isHelp_of_iff

/-! ## What the commands make of their first argument -/

theorem unlessValue_eq_run_iff {invocation : Invocation} {name : String} {value? : Option String}
    {request : Request} :
    invocation.unlessValue name value? = .run request <->
      value? = none ∧ invocation = .run request := by
  cases value? <;> simp [Invocation.unlessValue]

/-- What the command `tree` makes of its first argument. -/
theorem readTree_cons_eq_run_iff {first : String} {rest : List String} {request : Request} :
    readTree (first :: rest) = .run request <->
      (first = "--" ∧ .tree rest = request) ∨
      (first ≠ "--" ∧ ¬ AsksForHelp first ∧ .tree (first :: rest) = request) := by
  rw [Ne, ← Shape.of_eq_separator_iff, ← Shape.isHelp_of_iff, Shape.isHelp, readTree]
  cases Shape.of first with
  | separator => simp
  | long name value? =>
      dsimp only [Shape.isOption, Shape.isHelpLetters]
      cases name == "help" <;> simp [unlessValue_eq_run_iff]
  | short letter others =>
      dsimp only [Shape.isOption, Shape.isHelpLetters]
      cases (letter :: others).all fun char => char == 'h' <;> simp
  | word => simp [Shape.isOption, Shape.isHelpLetters]

/-- What the command `type` makes of its first argument, behind `--strict` or not. -/
theorem readType_cons_eq_run_iff {strict : Bool} {first : String} {rest : List String}
    {request : Request} :
    readType strict (first :: rest) = .run request <->
      (first = "--" ∧ .type strict rest = request) ∨
      (first = "--strict" ∧ strict = false ∧ readType true rest = .run request) ∨
      (first ≠ "--" ∧ ¬ AsksForHelp first ∧ ¬ GivesOption "strict" first ∧
        .type strict (first :: rest) = request) := by
  have option : first = "--strict" <-> Shape.of first = .long "strict" none :=
    (@Shape.of_eq_long_none_iff first "strict" (by decide) (by decide)).symm
  rw [Ne, option, ← Shape.of_eq_separator_iff, ← Shape.isHelp_of_iff,
    ← Shape.isOption_of_iff (by decide) (by decide), Shape.isHelp, readType]
  cases Shape.of first with
  | separator => simp
  | long name value? =>
      dsimp only [Shape.isOption, Shape.isHelpLetters]
      by_cases help : name = "help"
      · simp [help, unlessValue_eq_run_iff]
      · by_cases named : name = "strict"
        · cases strict <;> simp [named, unlessValue_eq_run_iff]
        · simp [help, named]
  | short letter others =>
      dsimp only [Shape.isOption, Shape.isHelpLetters]
      cases (letter :: others).all fun char => char == 'h' <;> simp
  | word => simp [Shape.isOption, Shape.isHelpLetters]

/-- Behind `--strict`, no request is a lenient one. -/
theorem readType_strict_ne_run {arguments tokens : List String} :
    readType true arguments ≠ .run (.type false tokens) := by
  cases arguments with
  | nil => simp [readType]
  | cons first rest => simp [readType_cons_eq_run_iff]

/-- Behind `--` every token list reaches its command unchanged.  Without it, a token list does so
exactly if it is empty or its first token is neither `--` nor one of the command's options. -/
theorem read_passes_tokens (tokens : List String) :
    read ("tree" :: "--" :: tokens) = .run (.tree tokens) ∧
    read ("type" :: "--" :: tokens) = .run (.type false tokens) ∧
    read ("type" :: "--strict" :: "--" :: tokens) = .run (.type true tokens) ∧
    (read ("tree" :: tokens) = .run (.tree tokens) <->
      forall first, tokens.head? = some first -> first ≠ "--" ∧ ¬ AsksForHelp first) ∧
    (read ("type" :: tokens) = .run (.type false tokens) <->
      forall first, tokens.head? = some first ->
        first ≠ "--" ∧ ¬ AsksForHelp first ∧ ¬ GivesOption "strict" first) := by
  refine ⟨rfl, rfl, rfl, ?_, ?_⟩
  · change readTree tokens = _ <-> _
    cases tokens with
    | nil => simp [readTree]
    | cons first rest => simp [readTree_cons_eq_run_iff]
  · change readType false tokens = _ <-> _
    cases tokens with
    | nil => simp [readType]
    | cons first rest => simp [readType_cons_eq_run_iff, readType_strict_ne_run]

/-- What only looks like an option is a token, and so is everything behind it. -/
theorem read_passes_tokens_behind_unknown_option :
    let tokens := ["--stric", "--", "--strict", "-h", "-1", ""]
    read ("tree" :: tokens) = .run (.tree tokens) ∧
      read ("type" :: tokens) = .run (.type false tokens) ∧
      read ("type" :: "--strict" :: "--" :: tokens) = .run (.type true tokens) := by
  intro tokens
  have law := read_passes_tokens tokens
  refine ⟨law.2.2.2.1.mpr ?_, law.2.2.2.2.mpr ?_, law.2.2.1⟩
  · intro first begins
    cases begins
    decide
  · intro first begins
    cases begins
    decide

/-- The request for help is more than `-h` and `--help`: with a value it is misused, and its letter
may be repeated.  Neither is a token. -/
theorem read_help_with_value_and_repeated_letter :
    ¬ (forall tokens : List String,
        (forall first, tokens.head? = some first ->
          first ≠ "-h" ∧ first ≠ "--help" ∧ first ≠ "--") ->
        read ("tree" :: tokens) = .run (.tree tokens)) ∧
      read ["tree", "--help=x"] = .misuse (.attachedValue "--help" "x") ∧
      read ["tree", "-hh"] = .help .tree := by
  refine ⟨?_, rfl, rfl⟩
  intro passes
  have passed : read ["tree", "--help=x"] = .run (.tree ["--help=x"]) := by
    apply passes
    intro first begins
    cases begins
    decide
  cases passed

end CommandLine
end TreeShapes
