-- The grammar of arithmetic texts as a relation: which tokens a level of it
-- derives, and what they are worth. Whatever the relation derives the reader
-- reads, with the fuel it is given, up to the token where the level ends.
import CallForm.Arithmetic.Reader
import CallForm.Proofs.Level
import CallForm.Proofs.Outcome

namespace CallForm

namespace Arithmetic

/-! ## The grammar -/

/-- Tokens that a level of the grammar derives, with their value. -/
inductive Derives : Level → List ArithmeticToken → Option Float → Prop
  | number {digits : List Char} : natOfDigits digits ≤ Word.max32 →
      Derives .atom [.number digits] (some (Float.ofNat (natOfDigits digits)))
  | group {words : List ArithmeticToken} {value : Option Float} : Derives .sum words value →
      Derives .atom (.opening :: (words ++ [.closing])) value
  | ofAtom {words : List ArithmeticToken} {value : Option Float} : Derives .atom words value →
      Derives .factor words value
  | power {base exponent : List ArithmeticToken} {a b : Option Float} : Derives .atom base a →
      Derives .factor exponent b →
      Derives .factor (base ++ .operator .pow :: exponent) (ArithmeticOperator.pow.combine a b)
  | negation {words : List ArithmeticToken} {value : Option Float} : Derives .factor words value →
      Derives .factor (.operator .sub :: words) (value.map fun x => -x)
  | ofFactor {words : List ArithmeticToken} {value : Option Float} : Derives .factor words value →
      Derives .product words value
  | product {left right : List ArithmeticToken} {a b : Option Float} {op : ArithmeticOperator} :
      op.strength = 2 → Derives .product left a → Derives .factor right b →
      Derives .product (left ++ .operator op :: right) (op.combine a b)
  | ofProduct {words : List ArithmeticToken} {value : Option Float} :
      Derives .product words value → Derives .sum words value
  | sum {left right : List ArithmeticToken} {a b : Option Float} {op : ArithmeticOperator} :
      op.strength = 1 → Derives .sum left a → Derives .product right b →
      Derives .sum (left ++ .operator op :: right) (op.combine a b)

theorem Derives.loosen {words : List ArithmeticToken} {value : Option Float} (level : Level)
    (h : Derives level.tighter words value) : Derives level words value := by
  cases level with
  | sum => exact .ofProduct h
  | product => exact .ofFactor h
  | factor => exact .ofAtom h
  | atom => exact h

/-- What fits a slot fits every slot that asks for less. -/
theorem Derives.fits {low high : Nat} {words : List ArithmeticToken} {value : Option Float}
    (h : Derives (.ofSlot high) words value) (le : low ≤ high) :
    Derives (.ofSlot low) words value :=
  Level.fits (Derives · words value) loosen le h

/-- An atom fits every slot. -/
theorem Derives.atom_fits {words : List ArithmeticToken} {value : Option Float}
    (h : Derives .atom words value) (slot : Nat) : Derives (.ofSlot slot) words value :=
  Level.atom_fits (Derives · words value) loosen slot h

/-! ## Where a level ends -/

/-- Tokens that do not go on with an operator that binds as tightly as `strength`. -/
def EndsBelow (strength : Nat) (rest : List ArithmeticToken) : Prop :=
  ∀ op tail, rest = .operator op :: tail → op.strength < strength

theorem EndsBelow.nil (strength : Nat) : EndsBelow strength [] := by
  intro op tail h
  cases h

theorem EndsBelow.closing (strength : Nat) (rest : List ArithmeticToken) :
    EndsBelow strength (.closing :: rest) := by
  intro op tail h
  cases h

theorem EndsBelow.operator {strength : Nat} {op : ArithmeticOperator} (h : op.strength < strength)
    (rest : List ArithmeticToken) : EndsBelow strength (.operator op :: rest) := by
  intro other tail same
  cases same
  exact h

theorem EndsBelow.mono {low high : Nat} {rest : List ArithmeticToken} (h : EndsBelow low rest)
    (le : low ≤ high) : EndsBelow high rest :=
  fun op tail same => Nat.lt_of_lt_of_le (h op tail same) le

/-! ## One step of the reader -/

theorem readSum_operator {op : ArithmeticOperator} (h : op.strength = 1) (fuel : Nat)
    (total : Option Float) (rest : List ArithmeticToken) :
    readSum (fuel + 1) total (.operator op :: rest) =
      readTerm fuel rest >>= fun found => readSum fuel (op.combine total found.1) found.2 := by
  cases op <;> first | rfl | cases h

/-- Words that go on with an operator of a strength. -/
def GoesOn (strength : Nat) (words : List ArithmeticToken) : Prop :=
  ∃ op rest, words = .operator op :: rest ∧ op.strength = strength

theorem EndsBelow.not_goesOn {strength : Nat} {rest : List ArithmeticToken}
    (h : EndsBelow strength rest) : ¬ GoesOn strength rest := by
  rintro ⟨op, tail, rfl, same⟩
  have low := h op tail rfl
  omega

theorem readSum_stop {words : List ArithmeticToken} (h : ¬ GoesOn 1 words) (fuel : Nat)
    (total : Option Float) : readSum fuel total words = .ok (total, words) := by
  cases fuel with
  | zero => rfl
  | succ fuel =>
    rcases words with _ | ⟨token, rest⟩
    · rfl
    · cases token with
      | operator op =>
        have other : op.strength ≠ 1 := fun same => h ⟨op, rest, rfl, same⟩
        cases op <;> first | rfl | exact absurd rfl other
      | _ => rfl

theorem readSum_end {rest : List ArithmeticToken} (h : EndsBelow 1 rest) (fuel : Nat)
    (total : Option Float) : readSum fuel total rest = .ok (total, rest) :=
  readSum_stop h.not_goesOn fuel total

theorem readProduct_operator {op : ArithmeticOperator} (h : op.strength = 2) (fuel : Nat)
    (total : Option Float) (rest : List ArithmeticToken) :
    readProduct (fuel + 1) total (.operator op :: rest) =
      readFactor fuel rest >>= fun found =>
        readProduct fuel (op.combine total found.1) found.2 := by
  cases op <;> first | rfl | cases h

theorem readProduct_stop {words : List ArithmeticToken} (h : ¬ GoesOn 2 words) (fuel : Nat)
    (total : Option Float) : readProduct fuel total words = .ok (total, words) := by
  cases fuel with
  | zero => rfl
  | succ fuel =>
    rcases words with _ | ⟨token, rest⟩
    · rfl
    · cases token with
      | operator op =>
        have other : op.strength ≠ 2 := fun same => h ⟨op, rest, rfl, same⟩
        cases op <;> first | rfl | exact absurd rfl other
      | _ => rfl

theorem readProduct_end {rest : List ArithmeticToken} (h : EndsBelow 2 rest) (fuel : Nat)
    (total : Option Float) : readProduct fuel total rest = .ok (total, rest) :=
  readProduct_stop h.not_goesOn fuel total

/-- What follows a base: an exponent if the words go on with a power, and nothing otherwise. -/
def readExponent (fuel : Nat) (base : Option Float) : List ArithmeticToken → Reading
  | .operator .pow :: rest =>
    readFactor fuel rest >>= fun found =>
      .ok (ArithmeticOperator.pow.combine base found.1, found.2)
  | rest => .ok (base, rest)

theorem readExponent_end {rest : List ArithmeticToken} (h : EndsBelow 4 rest) (fuel : Nat)
    (base : Option Float) : readExponent fuel base rest = .ok (base, rest) := by
  unfold readExponent
  split
  · rename_i tail
    exact absurd ⟨.pow, tail, rfl, rfl⟩ h.not_goesOn
  · rfl

theorem readFactor_negation (fuel : Nat) (rest : List ArithmeticToken) :
    readFactor (fuel + 1) (.operator .sub :: rest) =
      readFactor fuel rest >>= fun found => .ok (found.1.map fun x => -x, found.2) := by
  rw [readFactor]

/-- Where no negation starts, a factor is an atom and what follows it as a base. -/
theorem readFactor_unsigned {words : List ArithmeticToken}
    (h : ∀ rest, words ≠ .operator .sub :: rest) (fuel : Nat) :
    readFactor (fuel + 1) words =
      readAtom fuel words >>= fun found => readExponent fuel found.1 found.2 := by
  rw [readFactor]
  · congr 1
    funext ⟨base, rest⟩
    rcases rest with _ | ⟨⟨op⟩ | _, tail⟩
    · rfl
    · cases op <;> rfl
    all_goals rfl
  · exact h

/-- The tokens of an atom do not start like a negation, whatever follows them. -/
theorem Derives.atom_unsigned {words : List ArithmeticToken} {value : Option Float}
    (h : Derives .atom words value) (rest tail : List ArithmeticToken) :
    words ++ rest ≠ .operator .sub :: tail := by
  cases h with
  | number => simp
  | group => simp

/-! ## What is derived is read -/

/-- The reader of a level takes words for a value, whatever follows that does not belong to the
level. Sums and products are left where their next operator is looked for. -/
def Read : Level → List ArithmeticToken → Option Float → Prop
  | .sum, words, value => ∀ (rest : List ArithmeticToken) (fuel : Nat), EndsBelow 2 rest →
      4 * (words ++ rest).length + 4 ≤ fuel → ∃ left, 4 * rest.length + 3 ≤ left ∧
        readExpr fuel (words ++ rest) = readSum left value rest
  | .product, words, value => ∀ (rest : List ArithmeticToken) (fuel : Nat), EndsBelow 4 rest →
      4 * (words ++ rest).length + 3 ≤ fuel → ∃ left, 4 * rest.length + 2 ≤ left ∧
        readTerm fuel (words ++ rest) = readProduct left value rest
  | .factor, words, value => ∀ (rest : List ArithmeticToken) (fuel : Nat), EndsBelow 4 rest →
      4 * (words ++ rest).length + 2 ≤ fuel →
        readFactor fuel (words ++ rest) = .ok (value, rest)
  | .atom, words, value => ∀ (rest : List ArithmeticToken) (fuel : Nat),
      4 * (words ++ rest).length + 1 ≤ fuel → readAtom fuel (words ++ rest) = .ok (value, rest)

theorem Derives.read {level : Level} {words : List ArithmeticToken} {value : Option Float}
    (h : Derives level words value) : Read level words value := by
  induction h with
  | @number digits small =>
    intro rest fuel enough
    obtain ⟨fuel, rfl⟩ : ∃ less, fuel = less + 1 := ⟨fuel - 1, by omega⟩
    simp [readAtom, small]
  | @group words value _ ih =>
    intro rest fuel enough
    simp only [List.cons_append, List.append_assoc, List.nil_append, List.length_cons] at enough ⊢
    obtain ⟨fuel, rfl⟩ : ∃ less, fuel = less + 1 := ⟨fuel - 1, by omega⟩
    obtain ⟨left, _, inner⟩ := ih (.closing :: rest) fuel (.closing 2 rest) (by simp at *; omega)
    rw [readAtom, inner, readSum_end (.closing 1 rest)]
    rfl
  | @ofAtom words value hatom ih =>
    intro rest fuel ends enough
    obtain ⟨fuel, rfl⟩ : ∃ less, fuel = less + 1 := ⟨fuel - 1, by omega⟩
    rw [readFactor_unsigned (hatom.atom_unsigned rest), ih rest fuel (by omega)]
    exact readExponent_end ends fuel value
  | @power base exponent a b hbase _ ihBase ihExponent =>
    intro rest fuel ends enough
    obtain ⟨fuel, rfl⟩ : ∃ less, fuel = less + 1 := ⟨fuel - 1, by omega⟩
    rw [List.append_assoc, List.cons_append] at enough ⊢
    have hexponent := ihExponent rest fuel ends (by simp at *; omega)
    rw [readFactor_unsigned (hbase.atom_unsigned _), ihBase _ fuel (by simp at *; omega),
      except_ok_bind, readExponent, hexponent]
    rfl
  | @negation words value _ ih =>
    intro rest fuel ends enough
    rw [List.cons_append, List.length_cons] at enough
    obtain ⟨fuel, rfl⟩ : ∃ less, fuel = less + 1 := ⟨fuel - 1, by omega⟩
    rw [List.cons_append, readFactor, ih rest fuel ends (by omega)]
    rfl
  | @ofFactor words value _ ih =>
    intro rest fuel ends enough
    obtain ⟨fuel, rfl⟩ : ∃ less, fuel = less + 1 := ⟨fuel - 1, by omega⟩
    refine ⟨fuel, by simp at enough; omega, ?_⟩
    rw [readTerm, ih rest fuel ends (by omega)]
    rfl
  | @product left right a b op middle _ _ ihLeft ihRight =>
    intro rest fuel ends enough
    rw [List.append_assoc, List.cons_append] at enough ⊢
    have starts : EndsBelow 4 (.operator op :: (right ++ rest)) :=
      .operator (by omega) _
    obtain ⟨fuel, enough', found⟩ := ihLeft _ fuel starts enough
    obtain ⟨fuel, rfl⟩ : ∃ less, fuel = less + 1 := ⟨fuel - 1, by omega⟩
    rw [List.length_cons] at enough'
    refine ⟨fuel, by simp at enough'; omega, ?_⟩
    rw [found, readProduct_operator middle, ihRight rest fuel ends (by omega)]
    rfl
  | @ofProduct words value _ ih =>
    intro rest fuel ends enough
    obtain ⟨fuel, rfl⟩ : ∃ less, fuel = less + 1 := ⟨fuel - 1, by omega⟩
    obtain ⟨left, _, found⟩ := ih rest fuel (ends.mono (by omega)) (by omega)
    refine ⟨fuel, by simp at enough; omega, ?_⟩
    rw [readExpr, found, readProduct_end ends]
    rfl
  | @sum left right a b op low _ _ ihLeft ihRight =>
    intro rest fuel ends enough
    rw [List.append_assoc, List.cons_append] at enough ⊢
    have starts : EndsBelow 2 (.operator op :: (right ++ rest)) :=
      .operator (by omega) _
    obtain ⟨fuel, enough', found⟩ := ihLeft _ fuel starts enough
    obtain ⟨fuel, rfl⟩ : ∃ less, fuel = less + 1 := ⟨fuel - 1, by omega⟩
    rw [List.length_cons] at enough'
    obtain ⟨_, _, found'⟩ := ihRight rest fuel (ends.mono (by omega)) (by omega)
    refine ⟨fuel, by simp at enough'; omega, ?_⟩
    rw [found, readSum_operator low, found', readProduct_end ends]
    rfl

/-- Tokens that are derived as an expression are read as one to their end. -/
theorem Derives.readExpr {words : List ArithmeticToken} {value : Option Float}
    (h : Derives .sum words value) :
    readExpr (4 * words.length + 4) words = .ok (value, []) := by
  obtain ⟨left, _, found⟩ := h.read [] (4 * words.length + 4) (.nil 2) (by simp)
  rw [List.append_nil] at found
  rw [found, readSum_end (.nil 1)]

/-! ## Spelling tokens -/

/-- A text spells tokens: in front of anything but a digit it is read as them. It has no mark of a
tag in it. -/
structure Spells (text : List Char) (words : List ArithmeticToken) : Prop where
  reads : ∀ rest, startsWithDigit rest = false →
    tokens (text ++ rest) = (tokens rest).map (words ++ ·)
  untagged : tagMark ∉ text

theorem consDigit_apart (c : Char) (words : List ArithmeticToken) :
    consDigit c false words = .number [c] :: words := by
  cases words with
  | nil => rfl
  | cons word _ => cases word <;> rfl

theorem tokens_digit {c : Char} (h : c.isDigit = true) (rest : List Char) :
    tokens (c :: rest) = (tokens rest).map (consDigit c (startsWithDigit rest)) := by
  have apart : ∀ d : Char, d.isDigit = false → c ≠ d := by
    intro d other same
    rw [same, other] at h
    cases h
  rw [tokens]
  · simp [apart, h]
  · intro _ same _
    exact apart '*' rfl same

theorem tokens_operator (op : ArithmeticOperator) (rest : List Char) :
    tokens (' ' :: (op.symbol.toList ++ ' ' :: rest)) = (tokens rest).map (.operator op :: ·) := by
  cases op <;> simp [tokens, ArithmeticOperator.symbol]

theorem tokens_opening (rest : List Char) :
    tokens ('(' :: rest) = (tokens rest).map (.opening :: ·) := by
  simp [tokens]

theorem tokens_closing (rest : List Char) :
    tokens (')' :: rest) = (tokens rest).map (.closing :: ·) := by
  simp [tokens]

theorem tokens_minus (rest : List Char) :
    tokens ('-' :: rest) = (tokens rest).map (.operator .sub :: ·) := by
  simp [tokens]

theorem tokens_digits {digits : List Char} (nonempty : digits ≠ [])
    (h : ∀ c ∈ digits, c.isDigit = true) {rest : List Char}
    (hrest : startsWithDigit rest = false) :
    tokens (digits ++ rest) = (tokens rest).map (.number digits :: ·) := by
  induction digits with
  | nil => exact absurd rfl nonempty
  | cons c others ih =>
    have digit := h c List.mem_cons_self
    rw [List.cons_append, tokens_digit digit]
    rcases others with _ | ⟨next, others⟩
    · rw [List.nil_append, hrest]
      congr 1
      funext words
      exact consDigit_apart c words
    · have touching : startsWithDigit (next :: others ++ rest) = true :=
        h next (by simp)
      rw [ih (by simp) (fun d found => h d (List.mem_cons_of_mem _ found)), touching]
      cases tokens rest <;> rfl

theorem Spells.number (n : Nat) : Spells n.repr.toList [.number (Nat.toDigits 10 n)] := by
  have digits : ∀ c ∈ Nat.toDigits 10 n, c.isDigit = true := fun c found =>
    Nat.isDigit_of_mem_toDigits (by decide) (by decide) found
  rw [Nat.repr, String.toList_ofList]
  constructor
  · intro rest hrest
    exact tokens_digits Nat.toDigits_ne_nil digits hrest
  · intro found
    have := digits tagMark found
    simp [tagMark] at this

theorem Spells.group {text : List Char} {words : List ArithmeticToken} (h : Spells text words) :
    Spells ('(' :: (text ++ [')'])) (.opening :: (words ++ [.closing])) := by
  constructor
  · intro rest _
    have inner := h.reads (')' :: rest) rfl
    rw [tokens_closing] at inner
    simp only [List.cons_append, List.append_assoc, List.nil_append]
    rw [tokens_opening, inner]
    cases tokens rest <;> simp [Except.map]
  · have := h.untagged
    simp [tagMark] at *
    exact this

theorem Spells.negation {text : List Char} {words : List ArithmeticToken} (h : Spells text words) :
    Spells ('-' :: text) (.operator .sub :: words) := by
  constructor
  · intro rest hrest
    rw [List.cons_append, tokens_minus, h.reads rest hrest]
    cases tokens rest <;> simp [Except.map]
  · have := h.untagged
    simp [tagMark] at *
    exact this

theorem Spells.operation {left right : List Char} {before after : List ArithmeticToken}
    (hl : Spells left before) (hr : Spells right after) (op : ArithmeticOperator) :
    Spells (left ++ ' ' :: (op.symbol.toList ++ ' ' :: right))
      (before ++ .operator op :: after) := by
  constructor
  · intro rest hrest
    have later := tokens_operator op (right ++ rest)
    rw [hr.reads rest hrest] at later
    simp only [List.append_assoc, List.cons_append]
    rw [hl.reads _ rfl, later]
    cases tokens rest <;> simp [Except.map]
  · have first := hl.untagged
    have second := hr.untagged
    cases op <;> simp [tagMark, ArithmeticOperator.symbol] at * <;> exact ⟨first, second⟩

end Arithmetic

end CallForm
