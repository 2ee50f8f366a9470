-- Short ways to write down trees whose parts share one place.
import CallForm.Tree.Basic

namespace CallForm

/-- A comparison given as its first operand and the pairs of operator and operand after it. -/
def Expr.comparing (pos : Position) (left : Expr) (rest : List (Comparison × Expr)) : Expr :=
  .compare pos left (rest.map (·.1)) (rest.map (·.2))

/-- A call of a bare name that stands where the call does. -/
def Expr.callName (pos : Position) (id : String) (args : List Expr) : Expr :=
  .call pos (.name pos id) args

/-- A subscript with one plain index. -/
def Expr.indexed (pos : Position) (base index : Expr) : Expr :=
  .subscript pos base (.item index)

/-- A subscript with one slice. -/
def Expr.sliced (pos : Position) (base : Expr) (bounds : Slice) : Expr :=
  .subscript pos base (.slice bounds)

/-- A subscript with several dimensions. -/
def Expr.slicedBy (pos : Position) (base : Expr) (parts : List Dim) : Expr :=
  .subscript pos base (.dims parts)

/-- A `while` loop without an `else` clause. -/
def Stmt.whileDo (pos : Position) (test : Expr) (body : List Stmt) : Stmt :=
  .whileLoop pos test body []

/-- A `for` loop without an `else` clause. -/
def Stmt.forEach (pos : Position) (target iter : Expr) (body : List Stmt) : Stmt :=
  .forLoop pos target iter body []

/-- An expression as a statement, standing where the expression does. -/
def Stmt.ofExpr (value : Expr) : Stmt :=
  .expr value.pos [value]

/-- A function definition as a statement, standing where the definition does. -/
def Stmt.ofFunction (definition : FunctionDef) : Stmt :=
  .function definition.pos definition

/-- A program without imports. -/
def Program.ofBody (body : List Stmt) : Program :=
  { body }

end CallForm
