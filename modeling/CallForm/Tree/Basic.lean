-- The syntax tree that a front end hands over and the lowering reads.
-- What lies outside the supported language stays in the tree as an
-- unknown node with the kind the front end gave it.
import CallForm.Position
import CallForm.Tree.Operator

namespace CallForm

/-! ## Leaves -/

/-- A number literal: a 64-bit integer or a double. -/
inductive Number
  | int (value : Int64)
  | float (value : Float)
deriving Repr, Inhabited

/-- The named constants. -/
inductive Constant
  | none | false | true
deriving Repr, DecidableEq, Inhabited

/-- A formal parameter of a function or of an anonymous function. -/
structure Param where
  name : String
  pos : Position
deriving Repr, DecidableEq, Inhabited

/-! ## Expressions -/

mutual

/-- An expression; every form carries the place where it starts. -/
inductive Expr
  | name (pos : Position) (id : String)
  | number (pos : Position) (value : Number)
  | string (pos : Position) (value : String)
  | constant (pos : Position) (value : Constant)
  | binary (pos : Position) (left : Expr) (op : BinaryOperator) (right : Expr)
  | unary (pos : Position) (op : UnaryOperator) (operand : Expr)
  | compare (pos : Position) (left : Expr) (ops : List Comparison) (comparators : List Expr)
  | call (pos : Position) (callee : Expr) (args : List Expr)
  | attribute (pos : Position) (object : Expr) (member : String)
  | subscript (pos : Position) (base : Expr) (index : Index)
  | list (pos : Position) (items : List Expr)
  | tuple (pos : Position) (items : List Expr)
  | lambda (pos : Position) (params : List Param) (body : Expr)
  | unknown (pos : Position) (kind : String)

/-- What stands between the brackets of a subscript. -/
inductive Index
  | item (value : Expr)
  | slice (bounds : Slice)
  | dims (parts : List Dim)

/-- One part of a subscript with several dimensions. -/
inductive Dim
  | item (value : Expr)
  | slice (bounds : Slice)

/-- The bounds of a slice; each of them may be missing. -/
inductive Slice
  | mk (lower upper step : Option Expr) (pos : Position)

end

instance : Inhabited Expr := ⟨.unknown default ""⟩
instance : Inhabited Index := ⟨.item default⟩
instance : Inhabited Dim := ⟨.item default⟩
instance : Inhabited Slice := ⟨.mk none none none default⟩

/-- The place where an expression starts. -/
def Expr.pos : Expr → Position
  | .name pos _ | .number pos _ | .string pos _ | .constant pos _ | .binary pos _ _ _
  | .unary pos _ _ | .compare pos _ _ _ | .call pos _ _ | .attribute pos _ _
  | .subscript pos _ _ | .list pos _ | .tuple pos _ | .lambda pos _ _ | .unknown pos _ => pos

/-- The name of an expression's form, as error messages give it. -/
def Expr.kindName : Expr → String
  | .name .. => "Name"
  | .number .. => "Num"
  | .string .. => "Str"
  | .constant .. => "NameConstant"
  | .binary .. => "BinOp"
  | .unary .. => "UnaryOp"
  | .compare .. => "Compare"
  | .call .. => "Call"
  | .attribute .. => "Attribute"
  | .subscript .. => "Subscript"
  | .list .. => "List"
  | .tuple .. => "Tuple"
  | .lambda .. => "Lambda"
  | .unknown _ kind => kind

/-! ## Statements -/

mutual

/-- A statement; every form carries the place where it starts. -/
inductive Stmt
  | function (pos : Position) (definition : FunctionDef)
  | assign (pos : Position) (target value : Expr)
  | augment (pos : Position) (target : Expr) (op : BinaryOperator) (value : Expr)
  | branch (pos : Position) (test : Expr) (body orelse : List Stmt)
  | whileLoop (pos : Position) (test : Expr) (body orelse : List Stmt)
  | forLoop (pos : Position) (target iter : Expr) (body orelse : List Stmt)
  | ret (pos : Position) (value : Option Expr)
  | expr (pos : Position) (values : List Expr)
  | unknown (pos : Position) (kind : String)

/-- A function definition. -/
inductive FunctionDef
  | mk (name : String) (params : List Param) (body : List Stmt) (pos : Position)

end

instance : Inhabited Stmt := ⟨.unknown default ""⟩
instance : Inhabited FunctionDef := ⟨.mk "" [] [] default⟩

/-- The place where a statement starts. -/
def Stmt.pos : Stmt → Position
  | .function pos _ | .assign pos _ _ | .augment pos _ _ _ | .branch pos _ _ _
  | .whileLoop pos _ _ _ | .forLoop pos _ _ _ _ | .ret pos _ | .expr pos _ | .unknown pos _ => pos

/-- The name a function is defined under. -/
def FunctionDef.name : FunctionDef → String
  | .mk name _ _ _ => name

/-- The formal parameters, in order. -/
def FunctionDef.params : FunctionDef → List Param
  | .mk _ params _ _ => params

/-- The statements of the body, in order. -/
def FunctionDef.body : FunctionDef → List Stmt
  | .mk _ _ body _ => body

/-- The place where the definition starts. -/
def FunctionDef.pos : FunctionDef → Position
  | .mk _ _ _ pos => pos

/-! ## Programs -/

/-- A name that an import statement binds, and the module it stands for. -/
structure Import where
  source : String
  binding : String
deriving Repr, DecidableEq, Inhabited

/-- A whole source file: its statements and the imports taken out of them. -/
structure Program where
  body : List Stmt
  imports : List Import := []
deriving Inhabited

/-- The function that a statement defines, if it defines one. -/
def Stmt.definition? : Stmt → Option FunctionDef
  | .function _ definition => some definition
  | _ => none

/-- The functions defined at the top level, in source order. -/
def Program.functions (program : Program) : List FunctionDef :=
  program.body.filterMap Stmt.definition?

/-- The first function defined at the top level under `name`. -/
def Program.function? (program : Program) (name : String) : Option FunctionDef :=
  program.functions.find? (·.name == name)

end CallForm
