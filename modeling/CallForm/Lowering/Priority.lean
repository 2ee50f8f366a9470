-- Which operators the compiled form has, and how tightly each one holds
-- its operands.
import CallForm.Ir.Basic
import CallForm.Lowering.Error

namespace CallForm

/-! ## Operators of the compiled form -/

/-- The compiled operator of a binary operator, if it has one. -/
def BinaryOperator.compiled? : BinaryOperator → Option InfixOperator
  | .add => some .add
  | .sub => some .sub
  | .mult => some .mul
  | .div => some .div
  | .mod => some .mod
  | .pow => some .pow
  | .floorDiv | .matMult | .leftShift | .rightShift | .bitOr | .bitXor | .bitAnd => none

/-- The compiled operator of a unary operator, if it has one. -/
def UnaryOperator.compiled? : UnaryOperator → Option PrefixOperator
  | .minus => some .neg
  | .not => some .not
  | .plus | .invert => none

/-- The compiled operator of a comparison, if it has one. -/
def Comparison.compiled? : Comparison → Option InfixOperator
  | .lt => some .lt
  | .gt => some .gt
  | .le => some .le
  | .ge => some .ge
  | .eq => some .eq
  | .ne => some .ne
  | .is | .isNot | .isIn | .notIn => none

/-- The compiled operator, or the error that there is none. -/
def BinaryOperator.compile (op : BinaryOperator) (line : UInt32) :
    Except LowerError InfixOperator :=
  match op.compiled? with
  | some operator => .ok operator
  | none => .error (.unsupportedOperator .binary op.text line)

/-- The compiled operator, or the error that there is none. -/
def UnaryOperator.compile (op : UnaryOperator) (line : UInt32) :
    Except LowerError PrefixOperator :=
  match op.compiled? with
  | some operator => .ok operator
  | none => .error (.unsupportedOperator .unary op.text line)

/-- The compiled operator, or the error that there is none. -/
def Comparison.compile (op : Comparison) (line : UInt32) : Except LowerError InfixOperator :=
  match op.compiled? with
  | some operator => .ok operator
  | none => .error (.unsupportedOperator .boolean op.text line)

/-! ## Priorities -/

namespace InfixOperator

/-- How tightly an operator holds: sums least, powers most. Comparisons always have their own
parentheses, so their priority never counts. -/
def priority : InfixOperator → Nat
  | .add | .sub => 1
  | .mul | .div | .mod => 2
  | .pow => 3
  | .lt | .gt | .le | .ge | .eq | .ne => 0

/-- The priority that the left operand has to reach to go without parentheses. A power groups to
the right, so its left operand has to reach one more. -/
def leftSlot (op : InfixOperator) : Nat :=
  if op = .pow then op.priority + 1 else op.priority

/-- The priority that the right operand has to reach to go without parentheses. All operators but
the power group to the left, so it has to reach one more. -/
def rightSlot (op : InfixOperator) : Nat :=
  if op = .pow then op.priority else op.priority + 1

end InfixOperator

/-- How tightly an operator in front of its operand holds. -/
def PrefixOperator.priority : Nat := 3

end CallForm
