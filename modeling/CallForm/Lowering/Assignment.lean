-- Lowering an assignment to part of a value. Whatever its shape it becomes
-- one bare call of eight arguments: the base, six that tell the part, and
-- the value.
--
--     a[lo:hi] = v            set(a, lo|0, hi|0, 1, 0, 0, 0, v)
--     a[i] = v                set(a, i, 0, 0, 0, 0, 0, v)
--     a[i, j] = v             set(a, i, 0, 0, j, 0, 0, v)
--     a[l1:u1, l2:u2] = v     set(a, l1|0, u1|nil, 1, l2|0, u2|nil, 1, v)
import CallForm.Lowering.Expr

namespace CallForm

/-- The six arguments that tell the part an assignment at `line` writes. -/
def Index.lowerTarget (env : Environment) (scope : Scope) (priority : Nat) (line : UInt32) :
    Index → Except LowerError (List Ir)
  | .slice (.mk lower upper none _) => do
    let low ← Expr.lowerBound env scope priority Ir.zero lower
    let high ← Expr.lowerBound env scope priority Ir.zero upper
    .ok [low, high, Ir.one, Ir.zero, Ir.zero, Ir.zero]
  | .item (.tuple _ [row, column]) => do
    let row ← row.lower env scope priority
    let column ← column.lower env scope priority
    .ok [row, Ir.zero, Ir.zero, column, Ir.zero, Ir.zero]
  | .item (.tuple ..) => .error (.unsupportedSlicing line)
  | .item value => do
    let item ← value.lower env scope priority
    .ok [item, Ir.zero, Ir.zero, Ir.zero, Ir.zero, Ir.zero]
  | .dims [.slice (.mk rowLow rowHigh none _), .slice (.mk columnLow columnHigh none _)] => do
    let rowLow ← Expr.lowerBound env scope priority Ir.zero rowLow
    let rowHigh ← Expr.lowerBound env scope priority (Ir.bare Primitive.nil) rowHigh
    let columnLow ← Expr.lowerBound env scope priority Ir.zero columnLow
    let columnHigh ← Expr.lowerBound env scope priority (Ir.bare Primitive.nil) columnHigh
    .ok [rowLow, rowHigh, Ir.one, columnLow, columnHigh, Ir.one]
  | .slice _ | .dims _ => .error (.unsupportedSlicing line)

/-- The compiled form of `base[index] = value` in a statement at `line`. -/
def Expr.lowerSet (env : Environment) (scope : Scope) (priority : Nat) (line : UInt32)
    (base : Expr) (index : Index) (value : Expr) : Except LowerError Ir := do
  let base ← base.lower env scope priority
  let selector ← index.lowerTarget env scope priority line
  let value ← value.lower env scope priority
  .ok (Ir.bareCall Primitive.set (base :: selector ++ [value]))

end CallForm
