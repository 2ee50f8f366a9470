-- The labels that operators, constants and numbers carry in the serialized
-- tree format.
import CallForm.Tree.Basic

namespace CallForm

/-- The label of a binary operator. -/
def BinaryOperator.label : BinaryOperator → String
  | .add => "Add"
  | .sub => "Sub"
  | .mult => "Mult"
  | .div => "Div"
  | .mod => "Mod"
  | .pow => "Pow"
  | .floorDiv => "FloorDiv"
  | .matMult => "MatMult"
  | .leftShift => "LShift"
  | .rightShift => "RShift"
  | .bitOr => "BitOr"
  | .bitXor => "BitXor"
  | .bitAnd => "BitAnd"

/-- The label of a unary operator. -/
def UnaryOperator.label : UnaryOperator → String
  | .minus => "USub"
  | .plus => "UAdd"
  | .not => "Not"
  | .invert => "Invert"

/-- The label of a comparison. -/
def Comparison.label : Comparison → String
  | .lt => "Lt"
  | .gt => "Gt"
  | .le => "LtE"
  | .ge => "GtE"
  | .eq => "Eq"
  | .ne => "NotEq"
  | .is => "Is"
  | .isNot => "IsNot"
  | .isIn => "In"
  | .notIn => "NotIn"

/-- The label of a named constant. -/
def Constant.label : Constant → String
  | .none => "None"
  | .false => "False"
  | .true => "True"

/-- The binary operator with a label. -/
def BinaryOperator.ofLabel? (label : String) : Option BinaryOperator :=
  all.find? (·.label == label)

/-- The unary operator with a label. -/
def UnaryOperator.ofLabel? (label : String) : Option UnaryOperator :=
  all.find? (·.label == label)

/-- The comparison with a label. -/
def Comparison.ofLabel? (label : String) : Option Comparison :=
  all.find? (·.label == label)

/-- The named constant with a label. -/
def Constant.ofLabel? (label : String) : Option Constant :=
  [Constant.none, .false, .true].find? (·.label == label)

theorem BinaryOperator.ofLabel?_label (op : BinaryOperator) : ofLabel? op.label = some op := by
  cases op <;> decide

theorem UnaryOperator.ofLabel?_label (op : UnaryOperator) : ofLabel? op.label = some op := by
  cases op <;> decide

theorem Comparison.ofLabel?_label (op : Comparison) : ofLabel? op.label = some op := by
  cases op <;> decide

theorem Constant.ofLabel?_label (value : Constant) : ofLabel? value.label = some value := by
  cases value <;> decide

end CallForm
