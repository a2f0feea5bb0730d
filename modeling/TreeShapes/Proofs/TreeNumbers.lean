import TreeShapes.Proofs.TreeSize

namespace TreeShapes
namespace BinaryTree

/-!
# Numbers read off trees

A tree stands for a number if every head along its right spine is empty, and the
number is the length of that spine.  Counting stops at the first head that is
not empty, so that it answers exactly for the trees that numbers are made into.
A chain of items is such a tree if and only if all its items are empty.

A number that was read off can be entered again as a literal of its own, but
only up to the limit for literals.  The limit holds for each literal alone:
nodes and lists around the largest number stand for numbers beyond it.
-/

/-! ## Counting along the spine -/

theorem ofNumber_succ (count : Nat) : ofNumber (count + 1) = node nil (ofNumber count) := rfl

/-- Counting adds the number of the tree to where it starts, and answers for no other tree. -/
theorem countFrom_eq_some_iff {start total : Nat} {tree : BinaryTree} :
    countFrom start tree = some total <->
      exists count, tree = ofNumber count ∧ start + count = total := by
  induction tree generalizing start with
  | nil =>
      constructor
      · intro counted
        have whole := Option.some.inj counted
        exact ⟨0, rfl, whole⟩
      · rintro ⟨count, same, rfl⟩
        cases count with
        | zero => rfl
        | succ count => cases same
  | node left right _ rightHypothesis =>
      cases left with
      | nil =>
          rw [countFrom, rightHypothesis]
          constructor
          · rintro ⟨count, rfl, rfl⟩
            exact ⟨count + 1, rfl, by omega⟩
          · rintro ⟨count, same, rfl⟩
            cases count with
            | zero => cases same
            | succ count =>
                have spine := node.inj same
                exact ⟨count, spine.2, by omega⟩
      | node first second =>
          constructor
          · intro counted
            cases counted
          · rintro ⟨count, same, _⟩
            cases count <;> cases same

theorem number?_eq_some_iff {tree : BinaryTree} {count : Nat} :
    tree.number? = some count <-> tree = ofNumber count := by
  rw [number?, countFrom_eq_some_iff]
  constructor
  · rintro ⟨own, same, total⟩
    rw [Nat.zero_add] at total
    rw [same, total]
  · intro same
    exact ⟨count, same, Nat.zero_add count⟩

/-! ## Numbers among the lists -/

theorem ofList_injective {items others : List BinaryTree} (same : ofList items = ofList others) :
    items = others := by
  induction items generalizing others with
  | nil =>
      cases others with
      | nil => rfl
      | cons other others => cases same
  | cons item items inductionHypothesis =>
      cases others with
      | nil => cases same
      | cons other others =>
          have parts := node.inj same
          rw [parts.1, inductionHypothesis parts.2]

theorem number?_ofList_eq_some_iff {items : List BinaryTree} {count : Nat} :
    (ofList items).number? = some count <->
      items.length = count ∧ forall item, item ∈ items -> item = nil := by
  rw [number?_eq_some_iff, ofNumber_eq_ofList, ← List.eq_replicate_iff]
  constructor
  · exact ofList_injective
  · rintro rfl
    rfl

theorem number?_ofList_eq_none {items : List BinaryTree}
    (nonempty : ¬ forall item, item ∈ items -> item = nil) : (ofList items).number? = none := by
  apply Option.eq_none_iff_forall_ne_some.mpr
  intro count counted
  exact nonempty (number?_ofList_eq_some_iff.mp counted).2

/-! ## Entering a number again -/

theorem nodeCount_ofNumber (count : Nat) : (ofNumber count).nodeCount = count := by
  rw [ofNumber_eq_ofList, nodeCount_ofList_replicate]

theorem spells_int {value : UInt64} (limited : value ≤ maxNumber) :
    Spells [Token.int value] (ofNumber value.toNat) := by
  rw [ofNumber_eq_ofList]
  exact .literal (.number limited)

/-- A number beyond the limit has no tree, and the error expects nothing in particular. -/
theorem parse_int_of_lt {value : UInt64} (beyond : maxNumber < value) :
    parse [Token.int value] = .error (.unexpectedToken (Token.int value) none) := by
  have valueless : (Literal.int value).tree? = none := by
    change (if value ≤ maxNumber then some (ofNumber value.toNat) else none) = none
    apply if_neg
    exact UInt64.not_le.mpr beyond
  have refused : reader.accept reader.start (Token.int value) = none := by
    change (Literal.int value).tree?.map _ = none
    rw [valueless, Option.map_none]
  have stopped : reader.read [Token.int value] =
      ⟨.error (.unexpectedToken (Token.int value) none), []⟩ :=
    reader.run_eq_unexpectedToken_iff.mpr ⟨[], reader.start, rfl, rfl, rfl, refused⟩
  rw [parse, read_of_ne_nil (List.cons_ne_nil _ _), stopped]
  rfl

/-- A number whose tree has fewer nodes than there are numbers of 64 bits is one of these. -/
theorem exists_value_of_number? {tree : BinaryTree} {count : Nat}
    (small : tree.nodeCount < UInt64.size) (counted : tree.number? = some count) :
    exists value : UInt64, value.toNat = count := by
  rw [number?_eq_some_iff.mp counted, nodeCount_ofNumber] at small
  exact ⟨UInt64.ofNat count, UInt64.toNat_ofNat_of_lt' small⟩

/-- The largest number that a literal may stand for, and one node before it. -/
theorem parse_node_before_limit :
    parse [.punct .langle, Token.name "nil", .punct .dot, Token.int maxNumber, .punct .rangle] =
      .ok (ofNumber (maxNumber.toNat + 1)) := by
  apply (parse_eq_ok_iff_of_ne_nil (List.cons_ne_nil _ _)).mpr
  rw [ofNumber_succ]
  exact .node (.literal .nil) (spells_int (UInt64.le_refl _))

theorem nodeCount_behind_limit_lt : (ofNumber (maxNumber.toNat + 1)).nodeCount < UInt64.size := by
  rw [nodeCount_ofNumber]
  decide

/-- A tree stands for a number exactly if it is that number, and a list exactly if all its items are
empty.  The number of a tree that was read can be entered as a literal of its own up to the limit,
for the same tree, and is refused beyond the limit, which trees that can be read do pass. -/
theorem number?_exact_and_reentered_within_limit :
    (forall (tree : BinaryTree) (count : Nat),
      tree.number? = some count <-> tree = ofNumber count) ∧
    (forall items : List BinaryTree,
      ((forall item, item ∈ items -> item = nil) ->
        (ofList items).number? = some items.length) ∧
      ((¬ forall item, item ∈ items -> item = nil) -> (ofList items).number? = none)) ∧
    (forall (tokens : List Token) (tree : BinaryTree) (count : Nat),
      parse tokens = .ok tree -> tree.nodeCount < UInt64.size -> tree.number? = some count ->
        exists value : UInt64, value.toNat = count ∧
          (count ≤ maxNumber.toNat -> parse [Token.int value] = .ok tree) ∧
          (maxNumber.toNat < count ->
            parse [Token.int value] = .error (.unexpectedToken (Token.int value) none))) ∧
    (exists (tokens : List Token) (tree : BinaryTree) (count : Nat),
      parse tokens = .ok tree ∧ tree.nodeCount < UInt64.size ∧ tree.number? = some count ∧
        maxNumber.toNat < count) := by
  refine ⟨?_, ?_, ?_, ?_⟩
  · intro tree count
    exact number?_eq_some_iff
  · intro items
    constructor
    · intro empty
      exact number?_ofList_eq_some_iff.mpr ⟨rfl, empty⟩
    · exact number?_ofList_eq_none
  · intro tokens tree count _ small counted
    rcases exists_value_of_number? small counted with ⟨value, rfl⟩
    have same := number?_eq_some_iff.mp counted
    refine ⟨value, rfl, ?_, ?_⟩
    · intro limited
      rw [same]
      exact (parse_eq_ok_iff_of_ne_nil (List.cons_ne_nil _ _)).mpr (spells_int limited)
    · intro beyond
      exact parse_int_of_lt beyond
  · exact ⟨_, _, maxNumber.toNat + 1, parse_node_before_limit, nodeCount_behind_limit_lt,
      number?_eq_some_iff.mpr rfl, Nat.lt_succ_self _⟩

/-- The list of two empty trees is entered again as the number two.  One node before the largest
number is a number that cannot be entered again. -/
theorem number?_of_list_and_of_node_reentered :
    (exists value : UInt64, value.toNat = 2 ∧ parse [Token.int value] = .ok (ofNumber 2)) ∧
    (exists value : UInt64, value.toNat = maxNumber.toNat + 1 ∧
      parse [Token.int value] = .error (.unexpectedToken (Token.int value) none)) ∧
    (ofList [nil, truth]).number? = none := by
  have pair : parse [.punct .lbracket, Token.name "nil", .punct .comma, Token.name "false",
      .punct .rbracket] = .ok (ofNumber 2) := rfl
  rcases number?_exact_and_reentered_within_limit with ⟨_, lists, reentered, _⟩
  refine ⟨?_, ?_, ?_⟩
  · rcases reentered _ _ 2 pair (by decide) rfl with ⟨value, two, within, _⟩
    exact ⟨value, two, within (by decide)⟩
  · rcases reentered _ _ _ parse_node_before_limit nodeCount_behind_limit_lt
      (number?_eq_some_iff.mpr rfl) with ⟨value, beyond, _, refused⟩
    exact ⟨value, beyond, refused (Nat.lt_succ_self _)⟩
  · apply (lists [nil, truth]).2
    intro empty
    cases empty truth (List.mem_cons_of_mem nil List.mem_cons_self)

end BinaryTree
end TreeShapes
