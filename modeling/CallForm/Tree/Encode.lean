-- Trees as JSON values. A struct is the object of all its fields in order,
-- and one form out of several is an object with the form's label as its
-- only key, or the bare label if the form holds nothing.
import CallForm.Tree.Label
import CallForm.Json.Basic

namespace CallForm

namespace Json

/-- The form with a label and what it holds. -/
def labelled (label : String) (payload : Json) : Json :=
  .object [(label, payload)]

end Json

/-- A position as an object. -/
def Position.encode (pos : Position) : Json :=
  .object [("line", .number (.int pos.line.toNat)), ("column", .number (.int pos.column.toNat))]

/-- A number literal under the label of its kind. JSON has no number for a double that is not
finite, so `null` stands in its place. -/
def Number.encode : Number → Json
  | .int value => .labelled "Int" (.number (.int value.toInt))
  | .float value => .labelled "Float" (if value.isFinite then .number (.float value) else .null)

/-- A parameter as an object. -/
def Param.encode (param : Param) : Json :=
  .object [("name", .string param.name), ("pos", param.pos.encode)]

/-- An import as an object. -/
def Import.encode (entry : Import) : Json :=
  .object [("module", .string entry.source), ("binding", .string entry.binding)]

/-! ## Expressions -/

mutual

/-- An expression as the object of its form and its place. -/
def Expr.encode (expr : Expr) : Json :=
  .object [("kind", expr.encodeKind), ("pos", expr.pos.encode)]

/-- The form of an expression under its label. -/
def Expr.encodeKind : Expr → Json
  | .name _ id => .labelled "Name" (.string id)
  | .number _ value => .labelled "Number" value.encode
  | .string _ value => .labelled "Str" (.string value)
  | .constant _ value => .labelled "Constant" (.string value.label)
  | .binary _ left op right =>
    .labelled "BinOp" (.object
      [("left", left.encode), ("op", .string op.label), ("right", right.encode)])
  | .unary _ op operand =>
    .labelled "UnaryOp" (.object [("op", .string op.label), ("operand", operand.encode)])
  | .compare _ left ops comparators =>
    .labelled "Compare" (.object
      [("left", left.encode), ("ops", .array (ops.map fun op => .string op.label)),
        ("comparators", .array (Expr.encodeAll comparators))])
  | .call _ callee args =>
    .labelled "Call" (.object
      [("func", callee.encode), ("args", .array (Expr.encodeAll args))])
  | .attribute _ object member =>
    .labelled "Attribute" (.object [("value", object.encode), ("attr", .string member)])
  | .subscript _ base index =>
    .labelled "Subscript" (.object [("value", base.encode), ("index", index.encode)])
  | .list _ items => .labelled "List" (.array (Expr.encodeAll items))
  | .tuple _ items => .labelled "Tuple" (.array (Expr.encodeAll items))
  | .lambda _ params body =>
    .labelled "Lambda" (.object
      [("params", .array (params.map Param.encode)), ("body", body.encode)])
  | .unknown _ kind => .labelled "Unknown" (.string kind)

/-- Several expressions, in order. -/
def Expr.encodeAll : List Expr → List Json
  | [] => []
  | expr :: rest => expr.encode :: Expr.encodeAll rest

/-- An expression, or `null` if there is none. -/
def Expr.encodeOption : Option Expr → Json
  | none => .null
  | some expr => expr.encode

/-- The index of a subscript under the label of its shape. -/
def Index.encode : Index → Json
  | .item value => .labelled "Index" value.encode
  | .slice bounds => .labelled "Slice" bounds.encode
  | .dims parts => .labelled "ExtSlice" (.array (Dim.encodeAll parts))

/-- One dimension under the label of its shape. -/
def Dim.encode : Dim → Json
  | .item value => .labelled "Index" value.encode
  | .slice bounds => .labelled "Slice" bounds.encode

/-- Several dimensions, in order. -/
def Dim.encodeAll : List Dim → List Json
  | [] => []
  | part :: rest => part.encode :: Dim.encodeAll rest

/-- A slice as the object of its bounds and its place. -/
def Slice.encode : Slice → Json
  | .mk lower upper step pos =>
    .object
      [("lower", Expr.encodeOption lower), ("upper", Expr.encodeOption upper),
        ("step", Expr.encodeOption step), ("pos", pos.encode)]

end

/-! ## Statements -/

mutual

/-- A statement as the object of its form and its place. -/
def Stmt.encode (stmt : Stmt) : Json :=
  .object [("kind", stmt.encodeKind), ("pos", stmt.pos.encode)]

/-- The form of a statement under its label. -/
def Stmt.encodeKind : Stmt → Json
  | .function _ definition => .labelled "FunctionDef" definition.encode
  | .assign _ target value =>
    .labelled "Assign" (.object [("target", target.encode), ("value", value.encode)])
  | .augment _ target op value =>
    .labelled "AugAssign" (.object
      [("target", target.encode), ("op", .string op.label), ("value", value.encode)])
  | .branch _ test body orelse =>
    .labelled "If" (.object
      [("test", test.encode), ("body", .array (Stmt.encodeAll body)),
        ("orelse", .array (Stmt.encodeAll orelse))])
  | .whileLoop _ test body orelse =>
    .labelled "While" (.object
      [("test", test.encode), ("body", .array (Stmt.encodeAll body)),
        ("orelse", .array (Stmt.encodeAll orelse))])
  | .forLoop _ target iter body orelse =>
    .labelled "For" (.object
      [("target", target.encode), ("iter", iter.encode),
        ("body", .array (Stmt.encodeAll body)), ("orelse", .array (Stmt.encodeAll orelse))])
  | .ret _ value => .labelled "Return" (.object [("value", Expr.encodeOption value)])
  | .expr _ values => .labelled "Expr" (.object [("values", .array (Expr.encodeAll values))])
  | .unknown _ kind => .labelled "Unknown" (.string kind)

/-- Several statements, in order. -/
def Stmt.encodeAll : List Stmt → List Json
  | [] => []
  | stmt :: rest => stmt.encode :: Stmt.encodeAll rest

/-- A function definition as an object. -/
def FunctionDef.encode : FunctionDef → Json
  | .mk name params body pos =>
    .object
      [("name", .string name), ("params", .array (params.map Param.encode)),
        ("body", .array (Stmt.encodeAll body)), ("pos", pos.encode)]

end

/-- A program as an object. -/
def Program.encode (program : Program) : Json :=
  .object
    [("body", .array (Stmt.encodeAll program.body)),
      ("imports", .array (program.imports.map Import.encode))]

end CallForm
