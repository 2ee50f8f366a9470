-- Any part of a program that can be lowered by itself, and the two ways in
-- from outside: a function, and the first statement of a program.
import CallForm.Lowering.Stmt

namespace CallForm

/-- A part of a program that can be lowered by itself. The parts of a subscript with several
dimensions come with the place of the subscript. -/
inductive Node
  | program (value : Program)
  | function (value : FunctionDef)
  | stmt (value : Stmt)
  | expr (value : Expr)
  | slice (value : Slice)
  | dims (parts : List Dim) (pos : Position)

/-- The compiled form of a node in the current context. Of a program only the first statement is
lowered. -/
def Node.lower (allowReturn : Bool) : Node → Lowering Ir
  | .program value =>
    match value.body with
    | [] => .fail .emptyModule
    | first :: _ => first.lower false
  | .function value => value.lower
  | .stmt value => value.lower allowReturn
  | .expr value => .expr value
  | .slice value => .reading fun ctx => value.lower ctx.env ctx.scope ctx.priority
  | .dims parts pos =>
    .reading fun ctx => Dim.lowerPair ctx.env ctx.scope ctx.priority pos parts

/-- The compiled form of a function, starting from nothing bound. -/
def FunctionDef.compile (env : Environment) (definition : FunctionDef) : Except LowerError Ir :=
  (definition.lower.runOn { env }).1

/-- The compiled form of the first statement of a program, starting from nothing bound. -/
def Program.compileFirst (env : Environment) (program : Program) : Except LowerError Ir :=
  ((Node.program program).lower false |>.runOn { env }).1

end CallForm
