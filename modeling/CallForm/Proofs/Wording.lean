-- The texts that arithmetic terms are written as, as a grammar over the
-- characters: which texts each level of it admits for which term. Whatever
-- reads such texts has to be right about this grammar alone, and no longer
-- about where the writer leaves parentheses out.
import CallForm.Proofs.ArithmeticGrouping
import CallForm.Proofs.NumberText

namespace CallForm

namespace Arithmetic

/-! ## The grammar -/

/-- A text that a level of the grammar admits for a term. An operator stands between blanks, a
minus sign only in front of what is delimited by itself. -/
inductive Wording : Level → List Char → Arithmetic → Prop
  | number (n : UInt8) : Wording .atom (Nat.toDigits 10 n.toNat) (.number n)
  | group {text : List Char} {term : Arithmetic} : Wording .sum text term →
      Wording .atom ('(' :: (text ++ [')'])) term
  | negation {text : List Char} {term : Arithmetic} : Wording .atom text term →
      Wording .factor ('-' :: text) (.negation term)
  | operation {before after : List Char} {left right : Arithmetic} (op : ArithmeticOperator) :
      Wording (.ofSlot op.compiled.leftSlot) before left →
      Wording (.ofSlot op.compiled.rightSlot) after right →
      Wording (.ofSlot op.compiled.priority)
        (before ++ ' ' :: (op.symbol.toList ++ ' ' :: after)) (.operation left op right)
  | loosen (level : Level) {text : List Char} {term : Arithmetic} :
      Wording level.tighter text term → Wording level text term

/-- What fits a slot fits every slot that asks for less. -/
theorem Wording.fits {low high : Nat} {text : List Char} {term : Arithmetic}
    (h : Wording (.ofSlot high) text term) (le : low ≤ high) : Wording (.ofSlot low) text term :=
  Level.fits (Wording · text term) (fun level => loosen level) le h

/-- An atom fits every slot. -/
theorem Wording.atom_fits {text : List Char} {term : Arithmetic} (h : Wording .atom text term)
    (slot : Nat) : Wording (.ofSlot slot) text term :=
  Level.atom_fits (Wording · text term) (fun level => loosen level) slot h

/-- What fits some slot fits every slot inside parentheses. -/
theorem Wording.group_fits {slot : Nat} {text : List Char} {term : Arithmetic}
    (h : Wording (.ofSlot slot) text term) (other : Nat) :
    Wording (.ofSlot other) ('(' :: (text ++ [')'])) term := by
  have lowest : Wording (.ofSlot 0) text term := h.fits (Nat.zero_le slot)
  exact (Wording.group lowest).atom_fits other

/-! ## What the writer leaves out -/

/-- The slot that a term fills as it is written. -/
def slot : Arithmetic → Nat
  | .number _ | .negation _ => 4
  | .operation _ op _ => op.compiled.priority

theorem leftSlot_le_four (op : ArithmeticOperator) : op.compiled.leftSlot ≤ 4 := by
  cases op <;> decide

theorem rightSlot_le_four (op : ArithmeticOperator) : op.compiled.rightSlot ≤ 4 := by
  cases op <;> decide

theorem leftSlot_le_slot {op : ArithmeticOperator} {term : Arithmetic}
    (h : wrapsLeft op term = false) : op.compiled.leftSlot ≤ term.slot := by
  cases term with
  | number | negation => exact leftSlot_le_four op
  | operation left inner right =>
    revert h
    cases op <;> cases inner <;> simp [wrapsLeft, slot] <;> decide

theorem rightSlot_le_slot {op : ArithmeticOperator} {term : Arithmetic}
    (h : wrapsRight op term = false) : op.compiled.rightSlot ≤ term.slot := by
  cases term with
  | number | negation => exact rightSlot_le_four op
  | operation left inner right =>
    revert h
    cases op <;> cases inner <;> simp [wrapsRight, slot] <;> decide

/-- What the writer puts into parentheses, or leaves as it is because it fits, fills the slot. -/
theorem Wording.wrapped {term : Arithmetic}
    (h : Wording (.ofSlot term.slot) term.source.toList term) {slot : Nat} (wraps : Bool)
    (fits : wraps = false → slot ≤ term.slot) :
    Wording (.ofSlot slot) (if wraps then Arithmetic.wrapped term.source else term.source).toList
      term := by
  cases wraps with
  | false => exact h.fits (fits rfl)
  | true => simpa [Arithmetic.wrapped] using h.group_fits slot

/-- The text of a negation is the text of an atom in parentheses, behind a minus sign. -/
theorem source_negation (term : Arithmetic)
    (h : Wording (.ofSlot term.slot) term.source.toList term) :
    ∃ text, Wording .atom text term ∧
      (Arithmetic.negation term).source.toList = '(' :: ('-' :: text ++ [')']) := by
  cases term with
  | number n => exact ⟨_, .number n, by simp [source, Nat.repr]⟩
  | negation | operation =>
    exact ⟨_, h.group_fits 4, by simp [source, Arithmetic.wrapped]⟩

/-- The text of a term is a wording of it. -/
theorem wording_source (term : Arithmetic) :
    Wording (.ofSlot term.slot) term.source.toList term := by
  induction term with
  | number n =>
    have text : (Arithmetic.number n).source.toList = Nat.toDigits 10 n.toNat := by
      simp [source, Nat.repr]
    rw [text]
    exact .number n
  | negation operand ih =>
    obtain ⟨text, inner, shape⟩ := source_negation operand ih
    rw [shape]
    have signed : Wording (.ofSlot 3) ('-' :: text) (.negation operand) := .negation inner
    exact signed.group_fits 4
  | operation left op right ihLeft ihRight =>
    have before := ihLeft.wrapped (wrapsLeft op left) leftSlot_le_slot
    have after := ihRight.wrapped (wrapsRight op right) rightSlot_le_slot
    have whole := Wording.operation op before after
    simpa [source, slot] using whole

end Arithmetic

end CallForm
