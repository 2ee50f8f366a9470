-- Arithmetic over small whole numbers: what a term is worth, and how it is
-- written with few parentheses. A step that is undefined or leaves the
-- finite doubles makes the whole term undefined.
import CallForm.Decimal.Binary64

namespace CallForm

/-! ## Operators -/

/-- The operators of arithmetic terms. -/
inductive ArithmeticOperator
  | add | sub | mul | div | mod | pow
deriving Repr, DecidableEq, Inhabited

namespace ArithmeticOperator

/-- Every operator. -/
def all : List ArithmeticOperator := [.add, .sub, .mul, .div, .mod, .pow]

/-- The text of an operator. -/
def symbol : ArithmeticOperator → String
  | .add => "+"
  | .sub => "-"
  | .mul => "*"
  | .div => "/"
  | .mod => "%"
  | .pow => "**"

/-- How tightly an operator binds. -/
def strength : ArithmeticOperator → Nat
  | .add | .sub => 1
  | .mul | .div | .mod => 2
  | .pow => 4

/-- What an operator makes of two doubles. The remainder has the sign of the divisor and is
rounded once. -/
def compute (op : ArithmeticOperator) (left right : Float) : Float :=
  match op with
  | .add => left + right
  | .sub => left - right
  | .mul => left * right
  | .div => left / right
  | .mod => fusedMulAdd right (-(left / right).floor) left
  | .pow => left.pow right

/-- The operators are sum, difference, product, quotient, remainder and power: the remainder is
what the floored quotient of the two leaves of the first, as one fused step. -/
theorem compute_laws (x y : Float) :
    add.compute x y = x + y ∧ sub.compute x y = x - y ∧ mul.compute x y = x * y ∧
      div.compute x y = x / y ∧ mod.compute x y = fusedMulAdd y (-(x / y).floor) x ∧
      pow.compute x y = x.pow y :=
  ⟨rfl, rfl, rfl, rfl, rfl, rfl⟩

/-- The result of an operator, if it is finite. -/
def apply (op : ArithmeticOperator) (left right : Float) : Option Float :=
  let value := op.compute left right
  if value.isFinite then some value else none

/-- The result of an operator on operands that may be undefined. -/
def combine (op : ArithmeticOperator) (left right : Option Float) : Option Float := do
  op.apply (← left) (← right)

end ArithmeticOperator

/-! ## Terms -/

/-- An arithmetic term. -/
inductive Arithmetic
  | number (value : UInt8)
  | negation (operand : Arithmetic)
  | operation (left : Arithmetic) (op : ArithmeticOperator) (right : Arithmetic)
deriving Repr, DecidableEq, Inhabited

namespace Arithmetic

/-- What a term is worth, if every step of it is defined and finite. -/
def value : Arithmetic → Option Float
  | .number n => some (Float.ofNat n.toNat)
  | .negation operand => operand.value.map fun x => -x
  | .operation left op right => op.combine left.value right.value

/-- How deep operations nest in a term. -/
def depth : Arithmetic → Nat
  | .number _ => 0
  | .negation operand => operand.depth
  | .operation left _ right => 1 + max left.depth right.depth

/-! ## Their text -/

/-- A text in parentheses. -/
def wrapped (text : String) : String := "(" ++ text ++ ")"

/-- Whether a term on the left of an operator needs parentheses: an operation that binds less
tightly does, and on the left of a power every operation. -/
def wrapsLeft (op : ArithmeticOperator) : Arithmetic → Bool
  | .operation _ inner _ => inner.strength < op.strength || op == .pow
  | _ => false

/-- Whether a term on the right of an operator needs parentheses: an operation that binds less
tightly does, and one that binds equally, but for a power. -/
def wrapsRight (op : ArithmeticOperator) : Arithmetic → Bool
  | .operation _ inner _ =>
    inner.strength < op.strength || (inner.strength == op.strength && op != .pow)
  | _ => false

/-- The text of a term. A negation always stands in parentheses, and so does what it negates if
that is no number. -/
def source : Arithmetic → String
  | .number n => toString n.toNat
  | .negation (.number n) => "(-" ++ toString n.toNat ++ ")"
  | .negation operand => "(-" ++ wrapped operand.source ++ ")"
  | .operation left op right =>
    (if wrapsLeft op left then wrapped left.source else left.source) ++
      " " ++ op.symbol ++ " " ++
      (if wrapsRight op right then wrapped right.source else right.source)

end Arithmetic

end CallForm
