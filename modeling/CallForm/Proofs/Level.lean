-- The levels of a grammar of operators, and which of them the slots of the
-- lowering ask for. What holds of a level holds of the looser ones, so what
-- fits a slot fits every slot that asks for less.
namespace CallForm

/-- The levels of a grammar of operators, from loose to tight. A power is a factor, and so is an
operator in front of its operand. -/
inductive Level
  | sum | product | factor | atom
deriving Repr, DecidableEq

namespace Level

/-- The next tighter level. -/
def tighter : Level → Level
  | .sum => .product
  | .product => .factor
  | .factor | .atom => .atom

/-- The level that a slot of a priority asks for. -/
def ofSlot : Nat → Level
  | 0 | 1 => .sum
  | 2 => .product
  | 3 => .factor
  | _ => .atom

theorem fits (holds : Level → Prop) (loosen : ∀ level, holds level.tighter → holds level)
    {low high : Nat} (le : low ≤ high) (h : holds (ofSlot high)) : holds (ofSlot low) := by
  induction le with
  | refl => exact h
  | @step high _ ih =>
    refine ih ?_
    match high, h with
    | 0, h => exact h
    | 1, h | 2, h | 3, h => exact loosen _ h
    | _ + 4, h => exact h

theorem atom_fits (holds : Level → Prop) (loosen : ∀ level, holds level.tighter → holds level)
    (slot : Nat) (h : holds .atom) : holds (ofSlot slot) := by
  have high : holds (ofSlot (slot + 4)) := h
  exact fits holds loosen (by omega) high

end Level

end CallForm
