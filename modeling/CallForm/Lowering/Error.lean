-- Why a tree cannot be lowered, and how that is told.
import CallForm.Position

namespace CallForm

/-! ## Causes -/

/-- The family an unsupported operator belongs to. -/
inductive OperatorClass
  | binary | unary | boolean | augmented
deriving Repr, DecidableEq

/-- The reasons for a tree not to lower. -/
inductive LowerError
  | unsupportedNode (kind : String) (pos : Position)
  | unsupportedOperator (operators : OperatorClass) (op : String) (line : UInt32)
  | chainedComparison (line : UInt32)
  | unsupportedSlicing (line : UInt32)
  | misplacedReturn (line : UInt32)
  | unresolvableReference (object member : String) (line : UInt32)
  | malformedExpression (count : Nat) (line : UInt32)
  | emptyModule
deriving Repr, DecidableEq

/-! ## Their wording -/

/-- The name of an operator family. -/
def OperatorClass.text : OperatorClass → String
  | .binary => "binary"
  | .unary => "unary"
  | .boolean => "boolean"
  | .augmented => "augmented assignment"

namespace LowerError

/-- A line as messages write it. -/
def lineText (line : UInt32) : String := toString line.toNat

/-- The sentence that tells the cause. -/
def message : LowerError → String
  | .unsupportedNode kind pos =>
    "unsupported AST node type: " ++ kind ++ " (line " ++ lineText pos.line ++ ", column " ++
      toString pos.column.toNat ++ ")"
  | .unsupportedOperator operators op line =>
    operators.text ++ " operation not supported: " ++ op ++ " (line " ++ lineText line ++ ")"
  | .chainedComparison line =>
    "chained comparison not supported (line " ++ lineText line ++ ")"
  | .unsupportedSlicing line =>
    "unsupported slicing in assignment: line=" ++ lineText line
  | .misplacedReturn line =>
    "return only allowed at end of function: line=" ++ lineText line
  | .unresolvableReference object member line =>
    "undefined function: " ++ object ++ "." ++ member ++ "() (line " ++ lineText line ++ ")"
  | .malformedExpression count line =>
    "unexpected: expression statement has " ++ toString count ++ " sub-expressions (line " ++
      lineText line ++ ")"
  | .emptyModule => "module contains no statements"

/-- The line the cause lies on, if it lies on one. -/
def line? : LowerError → Option UInt32
  | .unsupportedNode _ pos => some pos.line
  | .unsupportedOperator _ _ line | .chainedComparison line | .unsupportedSlicing line
  | .misplacedReturn line | .unresolvableReference _ _ line | .malformedExpression _ line =>
    some line
  | .emptyModule => none

/-- The short name of the cause. -/
def code : LowerError → String
  | .unsupportedNode .. => "lower::unsupported_node_kind"
  | .unsupportedOperator .. => "lower::unsupported_operator"
  | .chainedComparison .. => "lower::chained_comparison"
  | .unsupportedSlicing .. => "lower::unsupported_slicing"
  | .misplacedReturn .. => "lower::misplaced_return"
  | .unresolvableReference .. => "lower::unresolvable_reference"
  | .malformedExpression .. => "lower::malformed_expression"
  | .emptyModule => "lower::empty_module"

/-- Advice on what to write instead, where there is any. -/
def help? : LowerError → Option String
  | .unsupportedNode .. => some "only the documented subset of the host language can be compiled"
  | .chainedComparison .. => some "split `a < b < c` into separate comparisons"
  | .unsupportedSlicing .. =>
    some "assign to a name, `a[i]`, `a[i, j]`, `a[lo:hi]` or `a[lo:hi, lo:hi]`"
  | _ => none

end LowerError

end CallForm
