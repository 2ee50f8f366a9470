-- The operators that a syntax tree can hold, supported or not, with the
-- text each one has in the host language.

namespace CallForm

/-! ## Operators -/

/-- The binary arithmetic and bit operators. -/
inductive BinaryOperator
  | add | sub | mult | div | mod | pow | floorDiv | matMult
  | leftShift | rightShift | bitOr | bitXor | bitAnd
deriving Repr, DecidableEq, Inhabited

/-- The operators in front of one operand. -/
inductive UnaryOperator
  | minus | plus | not | invert
deriving Repr, DecidableEq, Inhabited

/-- The operators between two compared operands. -/
inductive Comparison
  | lt | gt | le | ge | eq | ne | is | isNot | isIn | notIn
deriving Repr, DecidableEq, Inhabited

/-! ## Their text -/

/-- The text of a binary operator. -/
def BinaryOperator.text : BinaryOperator → String
  | .add => "+"
  | .sub => "-"
  | .mult => "*"
  | .div => "/"
  | .mod => "%"
  | .pow => "**"
  | .floorDiv => "//"
  | .matMult => "@"
  | .leftShift => "<<"
  | .rightShift => ">>"
  | .bitOr => "|"
  | .bitXor => "^"
  | .bitAnd => "&"

/-- The text of a unary operator. -/
def UnaryOperator.text : UnaryOperator → String
  | .minus => "-"
  | .plus => "+"
  | .not => "not"
  | .invert => "~"

/-- The text of a comparison. -/
def Comparison.text : Comparison → String
  | .lt => "<"
  | .gt => ">"
  | .le => "<="
  | .ge => ">="
  | .eq => "=="
  | .ne => "!="
  | .is => "is"
  | .isNot => "is not"
  | .isIn => "in"
  | .notIn => "not in"

/-! ## All of them -/

/-- Every binary operator. -/
def BinaryOperator.all : List BinaryOperator :=
  [.add, .sub, .mult, .div, .mod, .pow, .floorDiv, .matMult, .leftShift, .rightShift,
    .bitOr, .bitXor, .bitAnd]

/-- Every unary operator. -/
def UnaryOperator.all : List UnaryOperator := [.minus, .plus, .not, .invert]

/-- Every comparison. -/
def Comparison.all : List Comparison :=
  [.lt, .gt, .le, .ge, .eq, .ne, .is, .isNot, .isIn, .notIn]

/-! ## Operators of a text -/

/-- The binary operator of a text. -/
def BinaryOperator.ofText? (text : String) : Option BinaryOperator :=
  all.find? fun op => op.text == text

/-- The comparison of a text; "not equal" has an old text beside its own. -/
def Comparison.ofText? (text : String) : Option Comparison :=
  if text = "<>" then some .ne else all.find? fun op => op.text == text

@[simp] theorem BinaryOperator.ofText?_text (op : BinaryOperator) : ofText? op.text = some op := by
  cases op <;> decide

@[simp] theorem Comparison.ofText?_text (op : Comparison) : ofText? op.text = some op := by
  cases op <;> decide

theorem BinaryOperator.mem_all (op : BinaryOperator) : op ∈ all := by
  cases op <;> decide

theorem UnaryOperator.mem_all (op : UnaryOperator) : op ∈ all := by
  cases op <;> decide

theorem Comparison.mem_all (op : Comparison) : op ∈ all := by
  cases op <;> decide

end CallForm
