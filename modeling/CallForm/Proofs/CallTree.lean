-- The grammar of compiled text as a relation and as a reader. Operators hold
-- as they do in the host language: sums and products group to the left, an
-- operator in front of its operand holds tighter, a power tightest and to
-- the right, and a comparison has parentheses of its own. Parentheses leave
-- no trace in the tree.
import CallForm.Proofs.CallSpelling
import CallForm.Proofs.Level

namespace CallForm

/-! ## Trees -/

/-- What compiled text says, with no trace of its grouping. -/
inductive CallTree
  | symbol (head : Symbol)
  | number (lexeme : String)
  | string (value : String)
  | call (head : Symbol) (args : List CallTree)
  | between (left : CallTree) (op : InfixOperator) (right : CallTree)
  | before (op : PrefixOperator) (operand : CallTree)
deriving Inhabited

/-- How tightly the host language lets an operator hold its operands. -/
def InfixOperator.tightness : InfixOperator → Nat
  | .lt | .gt | .le | .ge | .eq | .ne => 0
  | .add | .sub => 1
  | .mul | .div | .mod => 2
  | .pow => 3

/-- The tightness of the operators that the chains of a level are made of. -/
def Level.tightness : Level → Nat
  | .sum => 1
  | .product => 2
  | .factor => 3
  | .atom => 4

/-- Levels that are chains of operands. -/
def Level.IsChain (level : Level) : Prop := level = .sum ∨ level = .product

namespace CallTree

/-! ## The grammar -/

/-- Tokens that a level of the grammar derives, with their tree. -/
inductive Derives : Level → List CallToken → CallTree → Prop
  | symbol (head : Symbol) : Derives .atom [.symbol head] (.symbol head)
  | number (lexeme : String) : Derives .atom [.number lexeme] (.number lexeme)
  | string (value : String) : Derives .atom [.string value] (.string value)
  | call (head : Symbol) {args : List (List CallToken × CallTree)} :
      (∀ arg ∈ args, Derives .sum arg.1 arg.2) →
      Derives .atom
        (.symbol head :: .opening :: (CallToken.commas (args.map Prod.fst) ++ [.closing]))
        (.call head (args.map Prod.snd))
  | group {words : List CallToken} {tree : CallTree} : Derives .sum words tree →
      Derives .atom (.opening :: (words ++ [.closing])) tree
  | comparison {left right : List CallToken} {a b : CallTree} {op : InfixOperator} :
      op.tightness = 0 → Derives .sum left a → Derives .sum right b →
      Derives .atom (.opening :: (left ++ .operator op :: right ++ [.closing])) (.between a op b)
  | power {base exponent : List CallToken} {a b : CallTree} : Derives .atom base a →
      Derives .factor exponent b →
      Derives .factor (base ++ .operator .pow :: exponent) (.between a .pow b)
  | before {words : List CallToken} {tree : CallTree} (op : PrefixOperator) :
      Derives .factor words tree → Derives .factor (.ofPrefix op :: words) (.before op tree)
  | chain {level : Level} {left right : List CallToken} {a b : CallTree} {op : InfixOperator} :
      level.IsChain → op.tightness = level.tightness → Derives level left a →
      Derives level.tighter right b →
      Derives level (left ++ .operator op :: right) (.between a op b)
  | loosen {words : List CallToken} {tree : CallTree} (level : Level) :
      Derives level.tighter words tree → Derives level words tree

/-! ## The reader -/

/-- A tree and the tokens that follow it. -/
abbrev Reading := Option (CallTree × List CallToken)

mutual

/-- Reads a level of the grammar. The fuel bounds the number of steps. -/
def readAt : Nat → Level → List CallToken → Reading
  | 0, _, _ => none
  | fuel + 1, .sum, text => do
    let (first, rest) ← readAt fuel .product text
    readChain fuel .sum first rest
  | fuel + 1, .product, text => do
    let (first, rest) ← readAt fuel .factor text
    readChain fuel .product first rest
  | fuel + 1, .factor, .operator .sub :: rest => do
    let (operand, rest) ← readAt fuel .factor rest
    some (.before .neg operand, rest)
  | fuel + 1, .factor, .not :: rest => do
    let (operand, rest) ← readAt fuel .factor rest
    some (.before .not operand, rest)
  | fuel + 1, .factor, text => do
    let (base, rest) ← readAt fuel .atom text
    match rest with
    | .operator .pow :: rest => do
      let (exponent, rest) ← readAt fuel .factor rest
      some (.between base .pow exponent, rest)
    | _ => some (base, rest)
  | _ + 1, .atom, .symbol head :: .opening :: .closing :: rest => some (.call head [], rest)
  | fuel + 1, .atom, .symbol head :: .opening :: rest => do
    let (args, rest) ← readArgs fuel rest
    some (.call head args, rest)
  | _ + 1, .atom, .symbol head :: rest => some (.symbol head, rest)
  | _ + 1, .atom, .number lexeme :: rest => some (.number lexeme, rest)
  | _ + 1, .atom, .string value :: rest => some (.string value, rest)
  | fuel + 1, .atom, .opening :: rest => do
    let (left, rest) ← readAt fuel .sum rest
    match rest with
    | .closing :: rest => some (left, rest)
    | .operator op :: rest =>
      if op.tightness = 0 then do
        let (right, rest) ← readAt fuel .sum rest
        match rest with
        | .closing :: rest => some (.between left op right, rest)
        | _ => none
      else none
    | _ => none
  | _ + 1, .atom, _ => none

/-- Reads the operands of a chain after the first, from left to right. -/
def readChain : Nat → Level → CallTree → List CallToken → Reading
  | 0, _, tree, rest => some (tree, rest)
  | fuel + 1, level, tree, .operator op :: rest =>
    if op.tightness = level.tightness then do
      let (next, rest) ← readAt fuel level.tighter rest
      readChain fuel level (.between tree op next) rest
    else some (tree, .operator op :: rest)
  | _ + 1, _, tree, rest => some (tree, rest)

/-- Reads arguments, at least one, up to the parenthesis that closes them. -/
def readArgs : Nat → List CallToken → Option (List CallTree × List CallToken)
  | 0, _ => none
  | fuel + 1, text => do
    let (first, rest) ← readAt fuel .sum text
    match rest with
    | .closing :: rest => some ([first], rest)
    | .comma :: rest => do
      let (others, rest) ← readArgs fuel rest
      some (first :: others, rest)
    | _ => none

end

/-- The tree of a text, if all of the text is read. -/
def read? (text : String) : Option CallTree := do
  let words ← CallToken.readAll text.toList
  let (tree, rest) ← readAt (4 * words.length + 4) .sum words
  if rest.isEmpty then some tree else none

/-! ## Where a level ends -/

/-- Tokens that go on with no operator that holds as tightly as a level does, and with no arguments
for a symbol before them. -/
def EndsAt (level : Level) (rest : List CallToken) : Prop :=
  (∀ op tail, rest = .operator op :: tail → op.tightness < level.tightness) ∧
    rest.head? ≠ some .opening

theorem EndsAt.mono {level other : Level} {rest : List CallToken} (h : EndsAt level rest)
    (le : level.tightness ≤ other.tightness) : EndsAt other rest :=
  ⟨fun op tail same => Nat.lt_of_lt_of_le (h.1 op tail same) le, h.2⟩

theorem EndsAt.tighter {level : Level} {rest : List CallToken} (h : EndsAt level rest) :
    EndsAt level.tighter rest := by
  refine h.mono ?_
  cases level <;> decide

theorem EndsAt.of_operator {level : Level} {op : InfixOperator}
    (h : op.tightness < level.tightness) (rest : List CallToken) :
    EndsAt level (.operator op :: rest) := by
  constructor
  · rintro other tail ⟨⟩
    exact h
  · simp

theorem EndsAt.of_closing (level : Level) (rest : List CallToken) :
    EndsAt level (.closing :: rest) := by
  constructor
  · rintro _ _ ⟨⟩
  · simp

theorem EndsAt.of_comma (level : Level) (rest : List CallToken) :
    EndsAt level (.comma :: rest) := by
  constructor
  · rintro _ _ ⟨⟩
  · simp

theorem EndsAt.of_nil (level : Level) : EndsAt level [] := by
  constructor
  · rintro _ _ ⟨⟩
  · simp

/-! ## One step of the reader -/

theorem readAt_chain {level : Level} (h : level.IsChain) (fuel : Nat) (text : List CallToken) :
    readAt (fuel + 1) level text =
      readAt fuel level.tighter text >>= fun found => readChain fuel level found.1 found.2 := by
  rcases h with rfl | rfl <;> rfl

theorem readChain_operator {level : Level} {op : InfixOperator}
    (h : op.tightness = level.tightness) (fuel : Nat) (tree : CallTree)
    (rest : List CallToken) :
    readChain (fuel + 1) level tree (.operator op :: rest) =
      readAt fuel level.tighter rest >>= fun found =>
        readChain fuel level (.between tree op found.1) found.2 := by
  rw [readChain, if_pos h]

theorem readChain_end {level : Level} {rest : List CallToken} (h : EndsAt level rest) (fuel : Nat)
    (tree : CallTree) : readChain fuel level tree rest = some (tree, rest) := by
  cases fuel with
  | zero => rfl
  | succ fuel =>
    unfold readChain
    split
    · rfl
    · rename_i op tail _
      have looser := h.1 op tail rfl
      rw [if_neg (by omega)]
    · rfl

/-- Where no operator stands in front and no power follows, a factor is an atom. -/
theorem readAt_factor_atom {first : CallToken} (h : first ≠ .operator .sub ∧ first ≠ .not)
    {fuel : Nat} {text rest : List CallToken} {tree : CallTree} (ends : EndsAt .factor rest)
    (hatom : readAt fuel .atom (first :: text) = some (tree, rest)) :
    readAt (fuel + 1) .factor (first :: text) = some (tree, rest) := by
  rw [readAt]
  · rw [hatom]
    simp only [Option.bind_eq_bind, Option.bind_some]
    split
    · rename_i tail
      exact absurd (ends.1 .pow tail rfl) (by decide)
    · rfl
  · rintro _ ⟨⟩
    exact h.1 rfl
  · rintro _ ⟨⟩
    exact h.2 rfl

/-- Where no operator stands in front and a power follows, a factor goes on with its exponent. -/
theorem readAt_factor_power {first : CallToken} (h : first ≠ .operator .sub ∧ first ≠ .not)
    {fuel : Nat} {text exponent rest : List CallToken} {a b : CallTree}
    (hbase : readAt fuel .atom (first :: text) = some (a, .operator .pow :: exponent))
    (hexponent : readAt fuel .factor exponent = some (b, rest)) :
    readAt (fuel + 1) .factor (first :: text) = some (.between a .pow b, rest) := by
  rw [readAt]
  · rw [hbase]
    simp only [Option.bind_eq_bind, Option.bind_some, hexponent]
  · rintro _ ⟨⟩
    exact h.1 rfl
  · rintro _ ⟨⟩
    exact h.2 rfl

theorem readAt_prefix (op : PrefixOperator) (fuel : Nat) (text : List CallToken) :
    readAt (fuel + 1) .factor (.ofPrefix op :: text) =
      readAt fuel .factor text >>= fun found => some (.before op found.1, found.2) := by
  cases op <;> rfl

theorem readAt_symbol (head : Symbol) {rest : List CallToken} (h : rest.head? ≠ some .opening)
    (fuel : Nat) : readAt (fuel + 1) .atom (.symbol head :: rest) = some (.symbol head, rest) := by
  rw [readAt]
  all_goals
    rintro _ rfl
    exact h rfl

theorem readAt_call (head : Symbol) {first : CallToken} (h : first ≠ .closing) (fuel : Nat)
    (text : List CallToken) :
    readAt (fuel + 1) .atom (.symbol head :: .opening :: first :: text) =
      readArgs fuel (first :: text) >>= fun found => some (.call head found.1, found.2) := by
  rw [readAt]
  · rintro _ ⟨⟩
    exact h rfl

/-- The tokens of a level are some, and no closing parenthesis comes first. Those of an atom do not
start like an operator in front of its operand. -/
theorem Derives.head {level : Level} {words : List CallToken} {tree : CallTree}
    (h : Derives level words tree) : ∃ first tail, words = first :: tail ∧ first ≠ .closing ∧
      (level = .atom → first ≠ .operator .sub ∧ first ≠ .not) := by
  induction h with
  | symbol | number | string | call | group => exact ⟨_, _, rfl, by simp⟩
  | comparison => exact ⟨_, _, rfl, by simp⟩
  | power _ _ ih =>
    obtain ⟨first, tail, rfl, opens, _⟩ := ih
    exact ⟨_, _, rfl, opens, by simp⟩
  | before op =>
    refine ⟨_, _, rfl, ?_, by simp⟩
    cases op <;> simp [CallToken.ofPrefix]
  | chain chain _ _ _ ih =>
    obtain ⟨first, tail, rfl, opens, _⟩ := ih
    refine ⟨_, _, rfl, opens, ?_⟩
    rintro rfl
    rcases chain with same | same <;> cases same
  | loosen level _ ih =>
    obtain ⟨first, tail, rfl, opens, atom⟩ := ih
    refine ⟨_, _, rfl, opens, ?_⟩
    rintro rfl
    exact atom rfl

/-! ## What is derived is read -/

/-- The reader of a level takes words for a tree, whatever follows that does not belong to the
level. A chain is left where its next operator is looked for. -/
def Read (level : Level) (words : List CallToken) (tree : CallTree) : Prop :=
  ∀ (rest : List CallToken) (fuel : Nat),
    4 * (words ++ rest).length + (5 - level.tightness) ≤ fuel →
      (EndsAt level rest → readAt fuel level (words ++ rest) = some (tree, rest)) ∧
      (level.IsChain → EndsAt level.tighter rest →
        ∃ left, 4 * rest.length + (4 - level.tightness) ≤ left ∧
          readAt fuel level (words ++ rest) = readChain left level tree rest)

theorem Read.of_chain {level : Level} {words : List CallToken} {tree : CallTree}
    (h : ∀ (rest : List CallToken) (fuel : Nat),
      4 * (words ++ rest).length + (5 - level.tightness) ≤ fuel → EndsAt level.tighter rest →
        ∃ left, 4 * rest.length + (4 - level.tightness) ≤ left ∧
          readAt fuel level (words ++ rest) = readChain left level tree rest) :
    Read level words tree := by
  intro rest fuel enough
  refine ⟨?_, fun _ ends => h rest fuel enough ends⟩
  intro ends
  obtain ⟨left, _, found⟩ := h rest fuel enough ends.tighter
  rw [found, readChain_end ends]

theorem Read.of_single {level : Level} {words : List CallToken} {tree : CallTree}
    (single : ¬ level.IsChain)
    (h : ∀ (rest : List CallToken) (fuel : Nat),
      4 * (words ++ rest).length + (4 - level.tightness) ≤ fuel → EndsAt level rest →
        readAt (fuel + 1) level (words ++ rest) = some (tree, rest)) :
    Read level words tree := by
  intro rest fuel enough
  have low : level.tightness ≤ 4 := by cases level <;> decide
  obtain ⟨fuel, rfl⟩ : ∃ less, fuel = less + 1 := ⟨fuel - 1, by omega⟩
  exact ⟨h rest fuel (by omega), fun chain _ => absurd chain single⟩

/-- Arguments are read up to the parenthesis that closes them. -/
theorem readArgs_commas {args : List (List CallToken × CallTree)} (nonempty : args ≠ [])
    (h : ∀ arg ∈ args, Read .sum arg.1 arg.2) (rest : List CallToken) (fuel : Nat)
    (enough : 4 * (CallToken.commas (args.map Prod.fst) ++ .closing :: rest).length + 5 ≤ fuel) :
    readArgs fuel (CallToken.commas (args.map Prod.fst) ++ .closing :: rest) =
      some (args.map Prod.snd, rest) := by
  induction args generalizing fuel with
  | nil => exact absurd rfl nonempty
  | cons arg others ih =>
    obtain ⟨fuel, rfl⟩ : ∃ less, fuel = less + 1 := ⟨fuel - 1, by omega⟩
    have first := h arg List.mem_cons_self
    rcases others with _ | ⟨next, others⟩
    · simp only [List.map_cons, List.map_nil, CallToken.commas] at enough ⊢
      have found := (first (.closing :: rest) fuel (by simp [Level.tightness] at *; omega)).1
        (.of_closing ..)
      rw [readArgs, found]
      rfl
    · have later := ih (by simp) (fun arg found => h arg (List.mem_cons_of_mem _ found)) fuel
      simp only [List.map_cons, CallToken.commas, List.append_assoc, List.cons_append]
        at enough later ⊢
      generalize CallToken.commas (next.1 :: others.map Prod.fst) ++ .closing :: rest = tail
        at enough later ⊢
      simp only [List.length_append, List.length_cons] at enough
      have found := (first (.comma :: tail) fuel (by simp [Level.tightness]; omega)).1
        (.of_comma ..)
      rw [readArgs, found]
      simp only [Option.bind_eq_bind, Option.bind_some, later (by omega)]

theorem Derives.read {level : Level} {words : List CallToken} {tree : CallTree}
    (h : Derives level words tree) : Read level words tree := by
  induction h with
  | symbol head =>
    refine .of_single (by simp [Level.IsChain]) fun rest fuel enough ends => ?_
    exact readAt_symbol head ends.2 fuel
  | number | string =>
    refine .of_single (by simp [Level.IsChain]) fun rest fuel enough _ => ?_
    rfl
  | @call head args hargs ih =>
    refine .of_single (by simp [Level.IsChain]) fun rest fuel enough _ => ?_
    rcases args with _ | ⟨arg, others⟩
    · rfl
    · obtain ⟨first, tail, same, opens, _⟩ := (hargs arg List.mem_cons_self).head
      obtain ⟨more, shape⟩ := CallToken.commas_cons arg.1 (others.map Prod.fst)
      rw [same] at shape
      have inner := readArgs_commas (by simp) ih rest fuel (by simp at *; omega)
      simp only [List.map_cons, same, shape, List.cons_append, List.append_assoc,
        List.nil_append] at inner ⊢
      rw [readAt_call head opens, inner]
      rfl
  | @group words tree _ ih =>
    refine .of_single (by simp [Level.IsChain]) fun rest fuel enough _ => ?_
    simp only [List.cons_append, List.append_assoc, List.nil_append] at enough ⊢
    have inner := (ih (.closing :: rest) fuel (by simp [Level.tightness] at *; omega)).1
      (.of_closing ..)
    rw [readAt, inner]
    rfl
  | @comparison left right a b op loose _ _ ihLeft ihRight =>
    refine .of_single (by simp [Level.IsChain]) fun rest fuel enough _ => ?_
    simp only [List.cons_append, List.append_assoc, List.nil_append] at enough ⊢
    have first := (ihLeft (.operator op :: (right ++ .closing :: rest)) fuel
      (by simp [Level.tightness] at *; omega)).1 (.of_operator (by simp [loose, Level.tightness]) _)
    have second := (ihRight (.closing :: rest) fuel (by simp [Level.tightness] at *; omega)).1
      (.of_closing ..)
    rw [readAt, first]
    simp only [Option.bind_eq_bind, Option.bind_some, if_pos loose, second]
  | @power base exponent a b hbase _ ihBase ihExponent =>
    refine .of_single (by simp [Level.IsChain]) fun rest fuel enough ends => ?_
    obtain ⟨first, tail, rfl, _, start⟩ := hbase.head
    rw [List.append_assoc, List.cons_append] at enough ⊢
    have found := (ihBase (.operator .pow :: (exponent ++ rest)) fuel
      (by simp [Level.tightness] at *; omega)).1 (.of_operator (by decide) _)
    have found' := (ihExponent rest fuel (by simp [Level.tightness] at *; omega)).1 ends
    exact readAt_factor_power (start rfl) found found'
  | @before words tree op _ ih =>
    refine .of_single (by simp [Level.IsChain]) fun rest fuel enough ends => ?_
    have found := (ih rest fuel (by simp [Level.tightness] at *; omega)).1 ends
    rw [List.cons_append, readAt_prefix, found]
    rfl
  | @chain level left right a b op chain tight _ _ ihLeft ihRight =>
    refine .of_chain fun rest fuel enough ends => ?_
    rw [List.append_assoc, List.cons_append] at enough ⊢
    have looser : level.tightness < level.tighter.tightness := by
      rcases chain with rfl | rfl <;> decide
    obtain ⟨fuel, enough', found⟩ := (ihLeft _ fuel enough).2 chain
      (.of_operator (by omega) _)
    obtain ⟨fuel, rfl⟩ : ∃ less, fuel = less + 1 := ⟨fuel - 1, by simp at enough'; omega⟩
    have found' := (ihRight rest fuel (by simp at *; omega)).1 ends
    refine ⟨fuel, by simp at *; omega, ?_⟩
    rw [found, readChain_operator tight, found']
    rfl
  | @loosen words tree level h ih =>
    cases level with
    | sum | product =>
      refine .of_chain fun rest fuel enough ends => ?_
      obtain ⟨fuel, rfl⟩ : ∃ less, fuel = less + 1 :=
        ⟨fuel - 1, by simp [Level.tightness] at enough; omega⟩
      have found := (ih rest fuel (by simp [Level.tightness, Level.tighter] at *; omega)).1 ends
      refine ⟨fuel, by simp [Level.tightness] at *; omega, ?_⟩
      rw [readAt_chain (by simp [Level.IsChain]), found]
      rfl
    | factor =>
      refine .of_single (by simp [Level.IsChain]) fun rest fuel enough ends => ?_
      obtain ⟨first, tail, rfl, _, start⟩ := h.head
      have found := (ih rest fuel (by simp [Level.tightness, Level.tighter] at *; omega)).1
        ends.tighter
      exact readAt_factor_atom (start rfl) ends found
    | atom => exact ih

/-- Tokens that are derived as a sum are read as one to their end. -/
theorem Derives.readAt_sum {words : List CallToken} {tree : CallTree}
    (h : Derives .sum words tree) :
    readAt (4 * words.length + 4) .sum words = some (tree, []) := by
  have enough : 4 * (words ++ []).length + (5 - Level.sum.tightness) ≤ 4 * words.length + 4 := by
    simp [Level.tightness]
  have found := (h.read [] (4 * words.length + 4) enough).1 (.of_nil _)
  rwa [List.append_nil] at found

/-- What is derived from the tokens of a text is what the text is read as. -/
theorem Derives.read? {text : String} {words : List CallToken} {tree : CallTree}
    (h : Derives .sum words tree) (found : CallToken.readAll text.toList = some words) :
    CallTree.read? text = some tree := by
  unfold CallTree.read?
  rw [found]
  simp only [Option.bind_eq_bind, Option.bind_some, h.readAt_sum]
  rfl

/-- The grammar gives no tokens two trees. -/
theorem Derives.unique {words : List CallToken} {a b : CallTree} (ha : Derives .sum words a)
    (hb : Derives .sum words b) : a = b := by
  have first := ha.readAt_sum
  rw [hb.readAt_sum] at first
  cases first
  rfl

end CallTree

end CallForm
