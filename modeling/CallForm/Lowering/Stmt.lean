-- Lowering statements. A statement may bind names, and what it bound stays
-- bound even if it fails later on.
import CallForm.Lowering.Assignment

namespace CallForm

/-! ## The state of one compilation -/

/-- What lowering one function goes by: the environment, the names bound so far, the priority of
the place, and whether a function has been entered. -/
structure Context where
  env : Environment
  scope : Scope := Scope.empty
  priority : Nat := 0
  inFunction : Bool := false

/-- A step of lowering: it may fail, and leaves a context behind in either case. -/
abbrev Lowering (α : Type) : Type := ExceptT LowerError (StateM Context) α

namespace Lowering

/-- A step that reads the context and leaves it as it is. -/
def reading {α : Type} (read : Context → Except LowerError α) : Lowering α :=
  fun ctx => (read ctx, ctx)

/-- The step that fails. -/
def fail {α : Type} (error : LowerError) : Lowering α :=
  fun ctx => (.error error, ctx)

/-- Runs a step and tells how it went and what context it left. -/
def runOn {α : Type} (step : Lowering α) (ctx : Context) : Except LowerError α × Context :=
  step ctx

/-- Lowers an expression in the current context. -/
def expr (value : Expr) : Lowering Ir :=
  reading fun ctx => value.lower ctx.env ctx.scope ctx.priority

/-- Records an assignment to a name and tells what it does. -/
def assign (name : String) : Lowering Binding :=
  fun ctx => (.ok (ctx.scope.bindingOf name), { ctx with scope := ctx.scope.bind name })

/-- Enters the body of a function: its parameters are all that is bound there. A function inside
a function is refused. -/
def enter (definition : FunctionDef) : Lowering Unit :=
  fun ctx =>
    if ctx.inFunction then (.error (.unsupportedNode "FunctionDef" definition.pos), ctx)
    else
      (.ok (), { ctx with
        inFunction := true
        scope := Scope.ofParams (definition.params.map (·.name)) })

end Lowering

/-- Several statements in a place that holds one: a single one stands there itself, and any other
number goes into a block. -/
def blockOf (pos : Position) : List Ir → Ir
  | [single] => single
  | items => Ir.taggedCall pos Primitive.block items

/-! ## Statements without a body -/

/-- Lowers `target = value`. The name is bound before its value is lowered. -/
def lowerAssign (pos : Position) (target value : Expr) : Lowering Ir :=
  match target with
  | .name place id => do
    let binding ← Lowering.assign id
    let value ← Lowering.expr value
    return Ir.taggedCall pos binding.primitive [Ir.tagged place id, value]
  | .subscript _ base index =>
    .reading fun ctx =>
      Expr.lowerSet ctx.env ctx.scope ctx.priority pos.line base index value
  | _ => .fail (.unsupportedSlicing pos.line)

/-- Lowers `name += value` to a store of the sum; no other operator and no other target has a
compiled form. -/
def lowerAugment (pos : Position) (target : Expr) (op : BinaryOperator) (value : Expr) :
    Lowering Ir :=
  if op = .add then
    match target with
    | .name place id =>
      .reading fun ctx => do
        let name := Ir.tagged place id
        let value ← value.lower ctx.env ctx.scope InfixOperator.add.rightSlot
        let grouped := ctx.env.groupAggressively || InfixOperator.add.priority < ctx.priority
        .ok (Ir.taggedCall pos Primitive.store [name, .between name .add value grouped])
    | _ => .fail (.unsupportedSlicing pos.line)
  else .fail (.unsupportedOperator .augmented (op.text ++ "=") pos.line)

/-- Lowers a `return`, where it is allowed. -/
def lowerReturn (pos : Position) (value : Option Expr) (allowed : Bool) : Lowering Ir :=
  if allowed then
    match value with
    | some value => .expr value
    | none => return Ir.tagged pos Primitive.nil
  else .fail (.misplacedReturn pos.line)

/-- Lowers an expression that stands as a statement. -/
def lowerExprStmt (pos : Position) (values : List Expr) : Lowering Ir :=
  match values with
  | [value] => do
    let value ← Lowering.expr value
    return .group value
  | _ => .fail (.malformedExpression values.length pos.line)

/-! ## All statements -/

mutual

/-- The compiled form of a statement. `allowReturn` says that nothing of the function runs after
it, so that it may return. -/
def Stmt.lower (allowReturn : Bool) : Stmt → Lowering Ir
  | .function _ definition => definition.lower
  | .assign pos target value => lowerAssign pos target value
  | .augment pos target op value => lowerAugment pos target op value
  | .branch pos test body orelse => do
    let test ← Lowering.expr test
    let body ← Stmt.lowerAll allowReturn body
    let orelse ← Stmt.lowerAll allowReturn orelse
    return Ir.taggedCall pos Primitive.ifElse [test, blockOf pos body, blockOf pos orelse]
  | .whileLoop pos test body [] => do
    let test ← Lowering.expr test
    let body ← Stmt.lowerAll false body
    return Ir.taggedCall pos Primitive.loop [test, blockOf pos body]
  | .whileLoop pos _ _ _ => .fail (.unsupportedNode "While.orelse" pos)
  | .forLoop pos target iter body [] => do
    let item ← Lowering.expr target
    let body ← Stmt.lowerAll false body
    let iterable ← Lowering.expr iter
    let primitive := if iter.isParallelRange then Primitive.parallelMap else Primitive.map
    let closure :=
      Ir.taggedCall iter.pos Primitive.lambda [item, Ir.bareCall Primitive.block body]
    return Ir.taggedCall pos primitive [closure, iterable]
  | .forLoop pos _ _ _ _ => .fail (.unsupportedNode "For.orelse" pos)
  | .ret pos value => lowerReturn pos value allowReturn
  | .expr pos values => lowerExprStmt pos values
  | .unknown pos kind => .fail (.unsupportedNode kind pos)

/-- The compiled forms of statements in order; only the last one may return. -/
def Stmt.lowerAll (allowReturn : Bool) : List Stmt → Lowering (List Ir)
  | [] => return []
  | stmt :: rest => do
    let first ← stmt.lower (allowReturn && rest.isEmpty)
    let others ← Stmt.lowerAll allowReturn rest
    return first :: others

/-- The compiled form of a function definition. -/
def FunctionDef.lower : FunctionDef → Lowering Ir
  | .mk name params body pos => do
    Lowering.enter (.mk name params body pos)
    let body ← Stmt.lowerAll true body
    let params := params.map fun param => Ir.tagged param.pos param.name
    return Ir.taggedCall pos Primitive.define
      (Ir.tagged pos name :: params ++ [blockOf pos body])

end

end CallForm
