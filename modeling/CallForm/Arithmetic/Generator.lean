-- Arithmetic terms drawn by a generator whose draws depend on its seed
-- alone.
import CallForm.Arithmetic.Basic

namespace CallForm

/-- The state of a linear congruential generator. -/
structure Generator where
  word : UInt64
deriving Repr, DecidableEq, Inhabited

namespace Generator

/-- The state after one step, modulo `2 ^ 64`. -/
def next (generator : Generator) : Generator :=
  ⟨generator.word * 6364136223846793005 + 1442695040888963407⟩

/-- Draws a number below a bound from the upper 31 bits of the next state. -/
def below (bound : UInt64) : StateM Generator UInt64 := do
  modify next
  return ((← get).word >>> 33) % bound

/-- Draws a number from 1 to 9; one in six is negated. -/
def leaf : StateM Generator Arithmetic := do
  let number := Arithmetic.number ((← below 9).toUInt8 + 1)
  return if (← below 6) = 0 then .negation number else number

/-- Draws an operator. -/
def operator : StateM Generator ArithmeticOperator := do
  let index ← below 6
  return ArithmeticOperator.all.getD index.toNat .add

/-- Draws a term with at most `depth` operations inside each other: one in four ends early, and
one in eight operations is negated. -/
def term : (depth : Nat) → StateM Generator Arithmetic
  | 0 => leaf
  | depth + 1 => do
    if (← below 4) = 0 then leaf
    else
      let op ← operator
      let left ← term depth
      let right ← term depth
      let node := Arithmetic.operation left op right
      return if (← below 8) = 0 then .negation node else node

end Generator

end CallForm
