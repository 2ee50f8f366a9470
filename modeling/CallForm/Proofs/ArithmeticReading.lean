-- The reader of arithmetic texts and its grammar. Whatever the reader of a
-- level takes, the grammar derives, and the fuel it is given is always enough,
-- so it reads exactly the texts of the grammar. The text of a term is one of
-- them, and it is worth what the term is worth.
import CallForm.Proofs.ArithmeticTokens
import CallForm.Proofs.Wording

namespace CallForm

namespace Arithmetic

/-! ## What is read is derived -/

/-- Words in front of the rest that a level of the grammar derives. -/
def Takes (level : Level) (words : List ArithmeticToken) (value : Option Float)
    (rest : List ArithmeticToken) : Prop :=
  ∃ front, words = front ++ rest ∧ Derives level front value

/-- With a budget of fuel the reader of each level takes words that the level derives. The rows of
operands carry what was derived in front of them. -/
structure Sound (fuel : Nat) : Prop where
  sum : ∀ {words rest : List ArithmeticToken} {value : Option Float},
    readExpr fuel words = .ok (value, rest) → Takes .sum words value rest
  sumRow : ∀ {front words rest : List ArithmeticToken} {total value : Option Float},
    Derives .sum front total → readSum fuel total words = .ok (value, rest) →
    Takes .sum (front ++ words) value rest
  product : ∀ {words rest : List ArithmeticToken} {value : Option Float},
    readTerm fuel words = .ok (value, rest) → Takes .product words value rest
  productRow : ∀ {front words rest : List ArithmeticToken} {total value : Option Float},
    Derives .product front total → readProduct fuel total words = .ok (value, rest) →
    Takes .product (front ++ words) value rest
  factor : ∀ {words rest : List ArithmeticToken} {value : Option Float},
    readFactor fuel words = .ok (value, rest) → Takes .factor words value rest
  atom : ∀ {words rest : List ArithmeticToken} {value : Option Float},
    readAtom fuel words = .ok (value, rest) → Takes .atom words value rest

section

variable {fuel : Nat} {front words rest : List ArithmeticToken} {total value : Option Float}

theorem Sound.sum_succ (h : Sound fuel) (found : readExpr (fuel + 1) words = .ok (value, rest)) :
    Takes .sum words value rest := by
  rw [readExpr] at found
  obtain ⟨⟨first, behind⟩, operand, row⟩ := bind_eq_ok.mp found
  obtain ⟨front, rfl, derived⟩ := h.product operand
  exact h.sumRow (.ofProduct derived) row

theorem Sound.sumRow_succ (h : Sound fuel) (before : Derives .sum front total)
    (found : readSum (fuel + 1) total words = .ok (value, rest)) :
    Takes .sum (front ++ words) value rest := by
  by_cases more : GoesOn 1 words
  · obtain ⟨op, tail, rfl, low⟩ := more
    rw [readSum_operator low] at found
    obtain ⟨⟨next, behind⟩, operand, row⟩ := bind_eq_ok.mp found
    obtain ⟨right, rfl, derived⟩ := h.product operand
    simpa using h.sumRow (.sum low before derived) row
  · rw [readSum_stop more] at found
    cases found
    exact ⟨front, rfl, before⟩

theorem Sound.product_succ (h : Sound fuel)
    (found : readTerm (fuel + 1) words = .ok (value, rest)) : Takes .product words value rest := by
  rw [readTerm] at found
  obtain ⟨⟨first, behind⟩, operand, row⟩ := bind_eq_ok.mp found
  obtain ⟨front, rfl, derived⟩ := h.factor operand
  exact h.productRow (.ofFactor derived) row

theorem Sound.productRow_succ (h : Sound fuel) (before : Derives .product front total)
    (found : readProduct (fuel + 1) total words = .ok (value, rest)) :
    Takes .product (front ++ words) value rest := by
  by_cases more : GoesOn 2 words
  · obtain ⟨op, tail, rfl, middle⟩ := more
    rw [readProduct_operator middle] at found
    obtain ⟨⟨next, behind⟩, operand, row⟩ := bind_eq_ok.mp found
    obtain ⟨right, rfl, derived⟩ := h.factor operand
    simpa using h.productRow (.product middle before derived) row
  · rw [readProduct_stop more] at found
    cases found
    exact ⟨front, rfl, before⟩

theorem Sound.exponent (h : Sound fuel) {base : Option Float} (before : Derives .atom front base)
    (found : readExponent fuel base words = .ok (value, rest)) :
    Takes .factor (front ++ words) value rest := by
  unfold readExponent at found
  split at found
  · obtain ⟨⟨exponent, behind⟩, operand, same⟩ := bind_eq_ok.mp found
    cases same
    obtain ⟨right, rfl, derived⟩ := h.factor operand
    exact ⟨_, by simp, .power before derived⟩
  · cases found
    exact ⟨front, rfl, .ofAtom before⟩

theorem Sound.factor_succ (h : Sound fuel)
    (found : readFactor (fuel + 1) words = .ok (value, rest)) : Takes .factor words value rest := by
  by_cases signed : ∃ tail, words = .operator .sub :: tail
  · obtain ⟨tail, rfl⟩ := signed
    rw [readFactor_negation] at found
    obtain ⟨⟨operand, behind⟩, factor, same⟩ := bind_eq_ok.mp found
    cases same
    obtain ⟨front, rfl, derived⟩ := h.factor factor
    exact ⟨_, rfl, .negation derived⟩
  · rw [readFactor_unsigned fun tail same => signed ⟨tail, same⟩] at found
    obtain ⟨⟨base, behind⟩, atom, exponent⟩ := bind_eq_ok.mp found
    obtain ⟨front, rfl, derived⟩ := h.atom atom
    exact h.exponent derived exponent

theorem Sound.atom_succ (h : Sound fuel) (found : readAtom (fuel + 1) words = .ok (value, rest)) :
    Takes .atom words value rest := by
  rcases words with _ | ⟨token, tail⟩
  · cases found
  · cases token with
    | number digits =>
      rw [readAtom] at found
      split at found
      · rename_i small
        cases found
        exact ⟨_, rfl, .number small⟩
      · cases found
    | opening =>
      rw [readAtom] at found
      obtain ⟨⟨inner, behind⟩, sum, closed⟩ := bind_eq_ok.mp found
      obtain ⟨front, rfl, derived⟩ := h.sum sum
      dsimp only at closed
      split at closed
      · cases closed
        exact ⟨.opening :: (front ++ [.closing]), by simp, .group derived⟩
      · cases closed
    | closing => cases found
    | operator op => cases found

end

theorem sound (fuel : Nat) : Sound fuel := by
  induction fuel with
  | zero =>
    refine ⟨?_, ?_, ?_, ?_, ?_, ?_⟩
    · intro words rest value found
      cases found
    · intro front words rest total value before found
      cases found
      exact ⟨front, rfl, before⟩
    · intro words rest value found
      cases found
    · intro front words rest total value before found
      cases found
      exact ⟨front, rfl, before⟩
    · intro words rest value found
      cases found
    · intro words rest value found
      cases found
  | succ fuel ih =>
    exact ⟨ih.sum_succ, ih.sumRow_succ, ih.product_succ, ih.productRow_succ, ih.factor_succ,
      ih.atom_succ⟩

/-! ## The fuel is enough -/

/-- What a level takes leaves no more words than there were. -/
theorem Takes.length_le {level : Level} {words rest : List ArithmeticToken} {value : Option Float}
    (h : Takes level words value rest) : rest.length ≤ words.length := by
  obtain ⟨front, rfl, _⟩ := h
  simp

/-- With a budget of fuel that is enough for the words they are given, the readers find the same
with one more. -/
structure Steady (fuel : Nat) : Prop where
  sum : ∀ words : List ArithmeticToken, 4 * words.length + 4 ≤ fuel →
    readExpr (fuel + 1) words = readExpr fuel words
  sumRow : ∀ (total : Option Float) (words : List ArithmeticToken), 4 * words.length + 3 ≤ fuel →
    readSum (fuel + 1) total words = readSum fuel total words
  product : ∀ words : List ArithmeticToken, 4 * words.length + 3 ≤ fuel →
    readTerm (fuel + 1) words = readTerm fuel words
  productRow : ∀ (total : Option Float) (words : List ArithmeticToken),
    4 * words.length + 2 ≤ fuel →
    readProduct (fuel + 1) total words = readProduct fuel total words
  factor : ∀ words : List ArithmeticToken, 4 * words.length + 2 ≤ fuel →
    readFactor (fuel + 1) words = readFactor fuel words
  atom : ∀ words : List ArithmeticToken, 4 * words.length + 1 ≤ fuel →
    readAtom (fuel + 1) words = readAtom fuel words

section

variable {fuel : Nat} {words : List ArithmeticToken}

theorem Steady.sum_succ (h : Steady fuel) (enough : 4 * words.length + 4 ≤ fuel + 1) :
    readExpr (fuel + 2) words = readExpr (fuel + 1) words := by
  rw [readExpr, readExpr]
  refine bind_congr_ok (h.product words (by omega)) ?_
  rintro ⟨first, behind⟩ operand
  have := ((sound fuel).product operand).length_le
  exact h.sumRow first behind (by omega)

theorem Steady.sumRow_succ (h : Steady fuel) (total : Option Float)
    (enough : 4 * words.length + 3 ≤ fuel + 1) :
    readSum (fuel + 2) total words = readSum (fuel + 1) total words := by
  by_cases more : GoesOn 1 words
  · obtain ⟨op, tail, rfl, low⟩ := more
    rw [List.length_cons] at enough
    rw [readSum_operator low, readSum_operator low]
    refine bind_congr_ok (h.product tail (by omega)) ?_
    rintro ⟨next, behind⟩ operand
    have := ((sound fuel).product operand).length_le
    exact h.sumRow _ behind (by omega)
  · rw [readSum_stop more, readSum_stop more]

theorem Steady.product_succ (h : Steady fuel) (enough : 4 * words.length + 3 ≤ fuel + 1) :
    readTerm (fuel + 2) words = readTerm (fuel + 1) words := by
  rw [readTerm, readTerm]
  refine bind_congr_ok (h.factor words (by omega)) ?_
  rintro ⟨first, behind⟩ operand
  have := ((sound fuel).factor operand).length_le
  exact h.productRow first behind (by omega)

theorem Steady.productRow_succ (h : Steady fuel) (total : Option Float)
    (enough : 4 * words.length + 2 ≤ fuel + 1) :
    readProduct (fuel + 2) total words = readProduct (fuel + 1) total words := by
  by_cases more : GoesOn 2 words
  · obtain ⟨op, tail, rfl, middle⟩ := more
    rw [List.length_cons] at enough
    rw [readProduct_operator middle, readProduct_operator middle]
    refine bind_congr_ok (h.factor tail (by omega)) ?_
    rintro ⟨next, behind⟩ operand
    have := ((sound fuel).factor operand).length_le
    exact h.productRow _ behind (by omega)
  · rw [readProduct_stop more, readProduct_stop more]

theorem Steady.exponent (h : Steady fuel) (base : Option Float)
    (enough : 4 * words.length ≤ fuel + 1) :
    readExponent (fuel + 1) base words = readExponent fuel base words := by
  unfold readExponent
  split
  · rename_i tail
    rw [List.length_cons] at enough
    exact bind_congr_ok (h.factor tail (by omega)) fun _ _ => rfl
  · rfl

theorem Steady.factor_succ (h : Steady fuel) (enough : 4 * words.length + 2 ≤ fuel + 1) :
    readFactor (fuel + 2) words = readFactor (fuel + 1) words := by
  by_cases signed : ∃ tail, words = .operator .sub :: tail
  · obtain ⟨tail, rfl⟩ := signed
    rw [List.length_cons] at enough
    rw [readFactor_negation, readFactor_negation]
    exact bind_congr_ok (h.factor tail (by omega)) fun _ _ => rfl
  · have unsigned : ∀ tail, words ≠ .operator .sub :: tail := fun tail same => signed ⟨tail, same⟩
    rw [readFactor_unsigned unsigned, readFactor_unsigned unsigned]
    refine bind_congr_ok (h.atom words (by omega)) ?_
    rintro ⟨base, behind⟩ atom
    have := ((sound fuel).atom atom).length_le
    show readExponent (fuel + 1) base behind = readExponent fuel base behind
    exact h.exponent base (by omega)

theorem Steady.atom_succ (h : Steady fuel) (enough : 4 * words.length + 1 ≤ fuel + 1) :
    readAtom (fuel + 2) words = readAtom (fuel + 1) words := by
  rcases words with _ | ⟨token, tail⟩
  · rfl
  · cases token with
    | opening =>
      rw [List.length_cons] at enough
      rw [readAtom, readAtom]
      exact bind_congr_ok (h.sum tail (by omega)) fun _ _ => rfl
    | number | closing | operator => rfl

end

theorem steady (fuel : Nat) : Steady fuel := by
  induction fuel with
  | zero => constructor <;> intros <;> omega
  | succ fuel ih =>
    exact ⟨fun _ => ih.sum_succ, fun total _ => ih.sumRow_succ total, fun _ => ih.product_succ,
      fun total _ => ih.productRow_succ total, fun _ => ih.factor_succ, fun _ => ih.atom_succ⟩

/-- The fuel that words are read with is enough: with more of it nothing else is found. -/
theorem readExpr_of_le {words : List ArithmeticToken} {fuel : Nat}
    (enough : 4 * words.length + 4 ≤ fuel) :
    readExpr fuel words = readExpr (4 * words.length + 4) words := by
  induction enough with
  | refl => rfl
  | @step fuel enough ih => rw [(steady fuel).sum words enough, ih]

/-! ## Whole texts -/

/-- A text whose tokens are derived as an expression is worth what they are. -/
theorem evaluate_of_derives {text : String} {words : List ArithmeticToken} {value : Option Float}
    (found : tokens text.toList = .ok words) (h : Derives .sum words value) :
    evaluate text = .ok value := by
  unfold evaluate
  rw [found, except_ok_bind, h.readExpr]
  rfl

/-- A text that is worth something has tokens that are derived as an expression. -/
theorem derives_of_evaluate {text : String} {value : Option Float}
    (h : evaluate text = .ok value) :
    ∃ words, tokens text.toList = .ok words ∧ Derives .sum words value := by
  unfold evaluate at h
  obtain ⟨words, found, reads⟩ := bind_eq_ok.mp h
  obtain ⟨⟨total, rest⟩, read, ends⟩ := bind_eq_ok.mp reads
  obtain ⟨front, rfl, derived⟩ := (sound _).sum read
  cases rest with
  | nil =>
    cases ends
    exact ⟨front, by simpa using found, derived⟩
  | cons => cases ends

/-- What is worded as a term is written with tokens that are worth what the term is worth. -/
theorem Wording.derives {level : Level} {text : List Char} {term : Arithmetic}
    (h : Wording level text term) :
    ∃ words, Spells text words ∧ Derives level words term.value := by
  induction h with
  | number n =>
    have spells := Spells.number n.toNat
    rw [Nat.repr, String.toList_ofList] at spells
    exact ⟨_, spells, .digits n⟩
  | group _ ih =>
    obtain ⟨words, spells, derived⟩ := ih
    exact ⟨_, spells.group, .group derived⟩
  | negation _ ih =>
    obtain ⟨words, spells, derived⟩ := ih
    exact ⟨_, spells.negation, .negation (.ofAtom derived)⟩
  | operation op _ _ ihLeft ihRight =>
    obtain ⟨before, spellsLeft, left⟩ := ihLeft
    obtain ⟨after, spellsRight, right⟩ := ihRight
    exact ⟨_, spellsLeft.operation spellsRight op, left.operation right⟩
  | loosen level _ ih =>
    obtain ⟨words, spells, derived⟩ := ih
    exact ⟨words, spells, derived.loosen level⟩

end Arithmetic

/-! ## Steps that have a value -/

namespace ArithmeticOperator

theorem apply_eq_some {op : ArithmeticOperator} {left right value : Float} :
    op.apply left right = some value ↔
      op.compute left right = value ∧ value.isFinite = true := by
  simp only [apply, Option.ite_none_right_eq_some, Option.some.injEq]
  constructor
  · rintro ⟨finite, rfl⟩
    exact ⟨rfl, finite⟩
  · rintro ⟨rfl, finite⟩
    exact ⟨finite, rfl⟩

/-- A step has a value exactly if both operands have one and what the operator makes of them is
finite. -/
theorem combine_eq_some {op : ArithmeticOperator} {left right : Option Float} {value : Float} :
    op.combine left right = some value ↔ ∃ x, left = some x ∧ ∃ y, right = some y ∧
      op.compute x y = value ∧ value.isFinite = true := by
  simp only [combine, Option.bind_eq_bind, Option.bind_eq_some_iff, apply_eq_some]

end ArithmeticOperator

open Arithmetic

/-! ## The laws -/

/-- A text is written with tokens, in one way, exactly if it is made of blanks, digits, operators
and parentheses. It is worked out exactly if its tokens are an expression of the grammar whose
numbers fit 32 bits, and the value is that of the expression: operators of one strength apply from
the left, but powers from the right and before a minus sign in front of them. Fuel to spare changes
nothing, and a step has a value exactly if both operands have one and its result is finite. The
result is the sum, difference, product, quotient, floored remainder or power of the two doubles. -/
theorem exactly_the_expressions_of_the_grammar_are_worked_out (text : String) :
    ((∃! words, WrittenWith text.toList words) ↔
      ∀ c ∈ text.toList, isArithmeticCharacter c = true) ∧
    (∀ value, evaluate text = .ok value ↔
      ∃ words, WrittenWith text.toList words ∧ Derives .sum words value) ∧
    (∀ words spare, readExpr (4 * words.length + 4 + spare) words =
      readExpr (4 * words.length + 4) words) ∧
    (∀ (op : ArithmeticOperator) (left right : Option Float) (value : Float),
      op.combine left right = some value ↔ ∃ x, left = some x ∧ ∃ y, right = some y ∧
        op.compute x y = value ∧ value.isFinite = true) ∧
    ∀ x y : Float,
      ArithmeticOperator.add.compute x y = x + y ∧ ArithmeticOperator.sub.compute x y = x - y ∧
        ArithmeticOperator.mul.compute x y = x * y ∧ ArithmeticOperator.div.compute x y = x / y ∧
        ArithmeticOperator.mod.compute x y = fusedMulAdd y (-(x / y).floor) x ∧
        ArithmeticOperator.pow.compute x y = x.pow y := by
  refine ⟨existsUnique_writtenWith_iff, ?worth, ?fuel, ?steps, ArithmeticOperator.compute_laws⟩
  case worth =>
    intro value
    constructor
    · intro h
      obtain ⟨words, found, derived⟩ := derives_of_evaluate h
      exact ⟨words, writtenWith_of_tokens found, derived⟩
    · rintro ⟨words, written, derived⟩
      exact evaluate_of_derives written.tokens_eq derived
  case fuel =>
    intro words spare
    exact readExpr_of_le (Nat.le_add_right _ spare)
  case steps =>
    intro op left right value
    exact ArithmeticOperator.combine_eq_some

/-- A minus sign in front of a power negates the power. -/
example : evaluate "-2 ** 2" =
    .ok ((ArithmeticOperator.pow.combine (some (Float.ofNat 2)) (some (Float.ofNat 2))).map
      fun x => -x) := by
  have two : Derives .atom [.number ['2']] (some (Float.ofNat 2)) := .number (by decide)
  exact evaluate_of_derives rfl (.ofProduct (.ofFactor (.negation (.power two (.ofAtom two)))))

/-- The text of a term, with as few parentheses as it is written with, is worth what the term is
worth, or like the term has no value. -/
theorem the_text_of_a_term_is_worth_the_term (term : Arithmetic) :
    evaluate term.source = .ok term.value := by
  obtain ⟨words, spells, derived⟩ := (wording_source term).derives
  have found := spells.reads [] rfl
  rw [List.append_nil, show tokens [] = .ok [] from rfl, Except.map, List.append_nil] at found
  exact evaluate_of_derives found (derived.fits (Nat.zero_le _))

end CallForm
