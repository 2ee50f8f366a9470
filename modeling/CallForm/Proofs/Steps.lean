-- Lowering with the priority of operators kept in the context. An operator
-- sets it around each operand and restores it behind, also where the
-- operand fails, and what has delimiters of its own starts again at 0. It
-- is the same lowering: step by step it gives the same results and leaves
-- the same contexts.
import CallForm.Proofs.Outcome

namespace CallForm

/-! ## Steps that set the priority -/

namespace Lowering

variable {α β : Type}

/-- The context that a step starts from. -/
def context : Lowering Context := reading .ok

/-- The step with a result that does not look at the context. -/
def given (result : Except LowerError α) : Lowering α := reading fun _ => result

/-- Runs a step at a priority, and restores the one from before behind it. -/
def withPriority (priority : Nat) (step : Lowering α) : Lowering α :=
  fun ctx =>
    let (result, after) := step.runOn { ctx with priority }
    (result, { after with priority := ctx.priority })

/-- Runs a step in a place that has delimiters of its own. -/
def delimited (step : Lowering α) : Lowering α := withPriority 0 step

end Lowering

/-- What the object of `object.member` contributes as first argument. Only an object that is
neither a name nor dotted is lowered. -/
def receiverStep (pos : Position) (object : Expr) (member : String) (inside : Lowering Ir) :
    Lowering (List Ir) := do
  let ctx ← Lowering.context
  let unresolvable := LowerError.unresolvableReference object.dotted member pos.line
  match object with
  | .attribute .. =>
    if (ctx.env.references.resolve? member).isSome then return [] else .fail unresolvable
  | .name place id =>
    if ctx.scope.isBound id then return [Ir.tagged place id]
    else if ctx.env.modules.exposes id member then return []
    else .fail unresolvable
  | _ =>
    let value ← inside
    return [value]

/-! ## Expressions -/

mutual

/-- Lowers an expression at the priority of the context. -/
def Expr.step : Expr → Lowering Ir
  | .name pos id => return Ir.tagged pos id
  | .number _ value => return .number value
  | .string _ value => return .string value
  | .constant pos value => return Ir.tagged pos value.token
  | .binary pos left op right => do
    let operator ← Lowering.given (op.compile pos.line)
    let lhs ← Lowering.withPriority operator.leftSlot left.step
    let ctx ← Lowering.context
    let rhs ← Lowering.withPriority operator.rightSlot right.step
    return .between lhs operator rhs
      (ctx.env.groupAggressively || operator.priority < ctx.priority)
  | .unary pos op operand => do
    let operator ← Lowering.given (op.compile pos.line)
    let ctx ← Lowering.context
    let inner ← Lowering.delimited operand.step
    let written := Ir.before operator inner (ctx.env.groupAggressively || operand.isOperation)
    return if PrefixOperator.priority < ctx.priority then .group written else written
  | .compare pos left [op] [right] => Lowering.delimited do
    let operator ← Lowering.given (op.compile pos.line)
    let lhs ← left.step
    let rhs ← right.step
    return .between lhs operator rhs true
  | .compare pos _ _ _ => Lowering.delimited (.fail (.chainedComparison pos.line))
  | .call pos (.name _ id) args => Lowering.delimited do
    let args ← Expr.stepAll args
    return Ir.taggedCall pos (callTarget id) args
  | .call _ (.attribute pos object member) args => Lowering.delimited do
    let ctx ← Lowering.context
    let receiver ← receiverStep pos object member object.step
    let args ← Expr.stepAll args
    return Ir.taggedCall pos (ctx.env.references.head member) (receiver ++ args)
  | .call _ callee _ => Lowering.delimited (.fail (.unsupportedNode callee.kindName callee.pos))
  | .attribute pos object member => Lowering.delimited do
    let ctx ← Lowering.context
    let receiver ← receiverStep pos object member object.step
    return Ir.taggedCall pos (ctx.env.references.head member) receiver
  | .subscript pos base index => Lowering.delimited do
    let base ← base.step
    let selector ← index.step pos
    return Ir.taggedCall pos Primitive.slice [base, selector]
  | .list pos items => Lowering.delimited do
    let items ← Expr.stepAll items
    return Ir.taggedCall pos Primitive.makeList items
  | .tuple _ items => Lowering.delimited do
    let items ← Expr.stepAll items
    return .sequence items
  | .lambda pos params body => Lowering.delimited do
    let body ← body.step
    let params := params.map fun param => Ir.tagged param.pos param.name
    return Ir.taggedCall pos Primitive.lambda (params ++ [Ir.bareCall Primitive.block [body]])
  | .unknown pos kind => .fail (.unsupportedNode kind pos)

/-- Lowers several expressions, in order. -/
def Expr.stepAll : List Expr → Lowering (List Ir)
  | [] => return []
  | expr :: rest => do
    let first ← expr.step
    let others ← Expr.stepAll rest
    return first :: others

/-- Lowers a bound, which stands for `absent` if there is none. -/
def Expr.stepBound (absent : Ir) : Option Expr → Lowering Ir
  | none => return absent
  | some bound => bound.step

/-- Lowers the index of a subscript at `pos` that is read. -/
def Index.step (pos : Position) : Index → Lowering Ir
  | .item value => value.step
  | .slice bounds => bounds.step
  | .dims parts => Dim.stepPair pos parts

/-- Lowers the dimensions of a subscript at `pos`: there must be two. -/
def Dim.stepPair (pos : Position) : List Dim → Lowering Ir
  | [first, second] => do
    let first ← first.step
    let second ← second.step
    return .sequence [first, second]
  | _ => .fail (.unsupportedSlicing pos.line)

/-- Lowers one dimension. -/
def Dim.step : Dim → Lowering Ir
  | .item value => value.step
  | .slice bounds => bounds.step

/-- Lowers a slice. -/
def Slice.step : Slice → Lowering Ir
  | .mk lower upper step _ => do
    let low ← Expr.stepBound Ir.zero lower
    let high ← Expr.stepBound (Ir.bare Primitive.nil) upper
    match step with
    | none => return Ir.bareCall Primitive.makeList [low, high]
    | some step =>
      let step ← step.step
      return Ir.bareCall Primitive.makeList [low, high, step]

end

/-- Lowers the index of a subscript that is written by a statement at `line`. -/
def Index.stepTarget (line : UInt32) : Index → Lowering (List Ir)
  | .slice (.mk lower upper none _) => do
    let low ← Expr.stepBound Ir.zero lower
    let high ← Expr.stepBound Ir.zero upper
    return [low, high, Ir.one, Ir.zero, Ir.zero, Ir.zero]
  | .item (.tuple _ [row, column]) => do
    let row ← row.step
    let column ← column.step
    return [row, Ir.zero, Ir.zero, column, Ir.zero, Ir.zero]
  | .item (.tuple ..) => .fail (.unsupportedSlicing line)
  | .item value => do
    let item ← value.step
    return [item, Ir.zero, Ir.zero, Ir.zero, Ir.zero, Ir.zero]
  | .dims [.slice (.mk rowLow rowHigh none _), .slice (.mk columnLow columnHigh none _)] => do
    let rowLow ← Expr.stepBound Ir.zero rowLow
    let rowHigh ← Expr.stepBound (Ir.bare Primitive.nil) rowHigh
    let columnLow ← Expr.stepBound Ir.zero columnLow
    let columnHigh ← Expr.stepBound (Ir.bare Primitive.nil) columnHigh
    return [rowLow, rowHigh, Ir.one, columnLow, columnHigh, Ir.one]
  | .slice _ | .dims _ => .fail (.unsupportedSlicing line)

/-- Lowers `base[index] = value` in a statement at `line`. -/
def Expr.stepSet (line : UInt32) (base : Expr) (index : Index) (value : Expr) : Lowering Ir := do
  let base ← base.step
  let selector ← index.stepTarget line
  let value ← value.step
  return Ir.bareCall Primitive.set (base :: selector ++ [value])

/-! ## Statements -/

/-- Lowers `target = value`. -/
def assignStep (pos : Position) (target value : Expr) : Lowering Ir :=
  match target with
  | .name place id => do
    let binding ← Lowering.assign id
    let value ← value.step
    return Ir.taggedCall pos binding.primitive [Ir.tagged place id, value]
  | .subscript _ base index => base.stepSet pos.line index value
  | _ => .fail (.unsupportedSlicing pos.line)

/-- Lowers `name += value`. -/
def augmentStep (pos : Position) (target : Expr) (op : BinaryOperator) (value : Expr) :
    Lowering Ir :=
  if op = .add then
    match target with
    | .name place id => do
      let ctx ← Lowering.context
      let value ← Lowering.withPriority InfixOperator.add.rightSlot value.step
      let name := Ir.tagged place id
      let grouped := ctx.env.groupAggressively || InfixOperator.add.priority < ctx.priority
      return Ir.taggedCall pos Primitive.store [name, .between name .add value grouped]
    | _ => .fail (.unsupportedSlicing pos.line)
  else .fail (.unsupportedOperator .augmented (op.text ++ "=") pos.line)

/-- Lowers a `return`, where it is allowed. -/
def returnStep (pos : Position) (value : Option Expr) (allowed : Bool) : Lowering Ir :=
  if allowed then
    match value with
    | some value => value.step
    | none => return Ir.tagged pos Primitive.nil
  else .fail (.misplacedReturn pos.line)

/-- Lowers an expression that stands as a statement. -/
def exprStmtStep (pos : Position) (values : List Expr) : Lowering Ir :=
  match values with
  | [value] => do
    let value ← value.step
    return .group value
  | _ => .fail (.malformedExpression values.length pos.line)

mutual

/-- Lowers a statement. -/
def Stmt.step (allowReturn : Bool) : Stmt → Lowering Ir
  | .function _ definition => definition.step
  | .assign pos target value => assignStep pos target value
  | .augment pos target op value => augmentStep pos target op value
  | .branch pos test body orelse => do
    let test ← test.step
    let body ← Stmt.stepAll allowReturn body
    let orelse ← Stmt.stepAll allowReturn orelse
    return Ir.taggedCall pos Primitive.ifElse [test, blockOf pos body, blockOf pos orelse]
  | .whileLoop pos test body [] => do
    let test ← test.step
    let body ← Stmt.stepAll false body
    return Ir.taggedCall pos Primitive.loop [test, blockOf pos body]
  | .whileLoop pos _ _ _ => .fail (.unsupportedNode "While.orelse" pos)
  | .forLoop pos target iter body [] => do
    let item ← target.step
    let body ← Stmt.stepAll false body
    let iterable ← iter.step
    let primitive := if iter.isParallelRange then Primitive.parallelMap else Primitive.map
    let closure :=
      Ir.taggedCall iter.pos Primitive.lambda [item, Ir.bareCall Primitive.block body]
    return Ir.taggedCall pos primitive [closure, iterable]
  | .forLoop pos _ _ _ _ => .fail (.unsupportedNode "For.orelse" pos)
  | .ret pos value => returnStep pos value allowReturn
  | .expr pos values => exprStmtStep pos values
  | .unknown pos kind => .fail (.unsupportedNode kind pos)

/-- Lowers statements in order; only the last one may return. -/
def Stmt.stepAll (allowReturn : Bool) : List Stmt → Lowering (List Ir)
  | [] => return []
  | stmt :: rest => do
    let first ← stmt.step (allowReturn && rest.isEmpty)
    let others ← Stmt.stepAll allowReturn rest
    return first :: others

/-- Lowers a function definition. -/
def FunctionDef.step : FunctionDef → Lowering Ir
  | .mk name params body pos => do
    Lowering.enter (.mk name params body pos)
    let body ← Stmt.stepAll true body
    let params := params.map fun param => Ir.tagged param.pos param.name
    return Ir.taggedCall pos Primitive.define
      (Ir.tagged pos name :: params ++ [blockOf pos body])

end

/-- Lowers a node. Of a program only the first statement is lowered. -/
def Node.step (allowReturn : Bool) : Node → Lowering Ir
  | .program value =>
    match value.body with
    | [] => .fail .emptyModule
    | first :: _ => first.step false
  | .function value => value.step
  | .stmt value => value.step allowReturn
  | .expr value => value.step
  | .slice value => value.step
  | .dims parts pos => Dim.stepPair pos parts

/-! ## Steps that keep the context -/

namespace Lowering

variable {α β : Type} {ctx : Context}

/-- A step has a result on a context and leaves the context as it was. -/
def Gives (step : Lowering α) (ctx : Context) (result : Except LowerError α) : Prop :=
  step.runOn ctx = (result, ctx)

theorem gives_pure (value : α) : (pure value : Lowering α).Gives ctx (.ok value) := rfl

theorem gives_fail (cause : LowerError) : (fail cause : Lowering α).Gives ctx (.error cause) := rfl

theorem gives_given (result : Except LowerError α) : (given result).Gives ctx result := rfl

theorem Gives.bind {step : Lowering α} {next : α → Lowering β} {result : Except LowerError α}
    {later : α → Except LowerError β} (h : step.Gives ctx result)
    (hnext : ∀ value, (next value).Gives ctx (later value)) :
    (step >>= next).Gives ctx (result >>= later) := by
  unfold Gives at h ⊢
  rw [runOn_bind, h]
  cases result with
  | error cause => rfl
  | ok value => exact hnext value

theorem Gives.done {step : Lowering α} {result : Except LowerError α}
    (h : step.Gives ctx result) (made : α → β) :
    (step >>= fun value => pure (made value)).Gives ctx
      (result >>= fun value => .ok (made value)) :=
  h.bind fun value => gives_pure (made value)

/-- A step that looks at the context goes on with it. -/
theorem gives_context {next : Context → Lowering α} {result : Except LowerError α}
    (h : (next ctx).Gives ctx result) : (context >>= next).Gives ctx result := h

/-- What a step gives at a priority it gives wherever it is run at that priority. -/
theorem Gives.withPriority {step : Lowering α} {result : Except LowerError α} {priority : Nat}
    (h : step.Gives { ctx with priority } result) :
    (Lowering.withPriority priority step).Gives ctx result := by
  unfold Gives at h ⊢
  unfold runOn Lowering.withPriority
  rw [h]

/-- What a step gives at priority 0 it gives between delimiters. -/
theorem Gives.delimited {step : Lowering α} {result : Except LowerError α}
    (h : step.Gives { ctx with priority := 0 } result) :
    (Lowering.delimited step).Gives ctx result := h.withPriority

end Lowering

/-! ## The same lowering -/

/-- The object of an attribute contributes the same if its own lowering gives the same. -/
theorem gives_receiverStep {ctx : Context} (pos : Position) (object : Expr) (member : String)
    {inside : Lowering Ir} {lowered : Except LowerError Ir} (h : inside.Gives ctx lowered) :
    (receiverStep pos object member inside).Gives ctx
      (receiverOf ctx.env ctx.scope pos object member lowered) := by
  unfold receiverStep receiverOf
  apply Lowering.gives_context
  cases object with
  | name place id =>
    dsimp only
    split
    · exact Lowering.gives_pure _
    · split
      · exact Lowering.gives_pure _
      · exact Lowering.gives_fail _
  | «attribute» place inner middle =>
    dsimp only
    split
    · exact Lowering.gives_pure _
    · exact Lowering.gives_fail _
  | _ =>
    have given := h.done fun value => [value]
    cases lowered <;> exact given

mutual

/-- An expression gives its compiled form at the priority of the context, and restores whatever
priority it sets on the way. -/
theorem Expr.gives_step : ∀ (value : Expr) (ctx : Context),
    value.step.Gives ctx (value.lower ctx.env ctx.scope ctx.priority)
  | .name .., _ | .number .., _ | .string .., _ | .constant .., _ => rfl
  | .binary pos left op right, ctx => by
    rw [Expr.step, Expr.lower]
    apply (Lowering.gives_given _).bind
    intro operator
    apply (left.gives_step { ctx with priority := operator.leftSlot }).withPriority.bind
    intro lhs
    apply Lowering.gives_context
    exact (right.gives_step { ctx with priority := operator.rightSlot }).withPriority.done _
  | .unary pos op operand, ctx => by
    rw [Expr.step, Expr.lower]
    apply (Lowering.gives_given _).bind
    intro operator
    apply Lowering.gives_context
    exact (operand.gives_step { ctx with priority := 0 }).delimited.done _
  | .compare pos left [op] [right], ctx => by
    rw [Expr.step, Expr.lower]
    apply Lowering.Gives.delimited
    apply (Lowering.gives_given _).bind
    intro operator
    apply (left.gives_step _).bind
    intro lhs
    exact (right.gives_step _).done _
  | .compare _ _ [] _, _ | .compare _ _ (_ :: _ :: _) _, _ | .compare _ _ [_] [], _
  | .compare _ _ [_] (_ :: _ :: _), _ => rfl
  | .call pos callee args, ctx => by
    cases callee with
    | name place id =>
      rw [Expr.step, Expr.lower]
      apply Lowering.Gives.delimited
      exact (Expr.gives_stepAll args _).done _
    | «attribute» place object member =>
      rw [Expr.step, Expr.lower]
      apply Lowering.Gives.delimited
      apply Lowering.gives_context
      apply (gives_receiverStep _ _ _ (object.gives_step _)).bind
      intro receiver
      exact (Expr.gives_stepAll args _).done _
    | _ => rfl
  | .attribute pos object member, ctx => by
    rw [Expr.step, Expr.lower]
    apply Lowering.Gives.delimited
    apply Lowering.gives_context
    exact (gives_receiverStep _ _ _ (object.gives_step _)).done _
  | .subscript pos base index, ctx => by
    rw [Expr.step, Expr.lower]
    apply Lowering.Gives.delimited
    apply (base.gives_step _).bind
    intro base'
    exact (index.gives_step pos _ rfl).done _
  | .list pos items, ctx => by
    rw [Expr.step, Expr.lower]
    apply Lowering.Gives.delimited
    exact (Expr.gives_stepAll items _).done _
  | .tuple pos items, ctx => by
    rw [Expr.step, Expr.lower]
    apply Lowering.Gives.delimited
    exact (Expr.gives_stepAll items _).done _
  | .lambda pos params body, ctx => by
    rw [Expr.step, Expr.lower]
    apply Lowering.Gives.delimited
    exact (body.gives_step _).done _
  | .unknown .., _ => rfl

theorem Expr.gives_stepAll : ∀ (values : List Expr) (ctx : Context),
    (Expr.stepAll values).Gives ctx (Expr.lowerAll ctx.env ctx.scope ctx.priority values)
  | [], _ => rfl
  | value :: rest, ctx => by
    rw [Expr.stepAll, Expr.lowerAll]
    apply (value.gives_step ctx).bind
    intro first
    exact (Expr.gives_stepAll rest ctx).done _

theorem Expr.gives_stepBound (absent : Ir) : ∀ (bound : Option Expr) (ctx : Context),
    (Expr.stepBound absent bound).Gives ctx
      (Expr.lowerBound ctx.env ctx.scope ctx.priority absent bound)
  | none, _ => rfl
  | some bound, ctx => bound.gives_step ctx

/-- A subscript has brackets of its own, so its index is lowered at priority 0. -/
theorem Index.gives_step (pos : Position) : ∀ (index : Index) (ctx : Context),
    ctx.priority = 0 → (index.step pos).Gives ctx (index.lower ctx.env ctx.scope pos)
  | .item value, ctx, delimited => by
    rw [Index.step, Index.lower, ← delimited]
    exact value.gives_step ctx
  | .slice bounds, ctx, delimited => by
    rw [Index.step, Index.lower, ← delimited]
    exact bounds.gives_step ctx
  | .dims parts, ctx, delimited => by
    have lowered : (Index.dims parts).lower ctx.env ctx.scope pos =
        Dim.lowerPair ctx.env ctx.scope ctx.priority pos parts := by
      rw [delimited]
      match parts with
      | [_, _] => rfl
      | [] | [_] | _ :: _ :: _ :: _ => rfl
    rw [Index.step, lowered]
    exact Dim.gives_stepPair pos parts ctx

theorem Dim.gives_stepPair (pos : Position) : ∀ (parts : List Dim) (ctx : Context),
    (Dim.stepPair pos parts).Gives ctx
      (Dim.lowerPair ctx.env ctx.scope ctx.priority pos parts)
  | [first, second], ctx => by
    rw [Dim.stepPair, Dim.lowerPair]
    apply (first.gives_step ctx).bind
    intro first'
    exact (second.gives_step ctx).done _
  | [], _ | [_], _ | _ :: _ :: _ :: _, _ => rfl

theorem Dim.gives_step : ∀ (part : Dim) (ctx : Context),
    part.step.Gives ctx (part.lower ctx.env ctx.scope ctx.priority)
  | .item value, ctx => value.gives_step ctx
  | .slice bounds, ctx => bounds.gives_step ctx

theorem Slice.gives_step : ∀ (bounds : Slice) (ctx : Context),
    bounds.step.Gives ctx (bounds.lower ctx.env ctx.scope ctx.priority)
  | .mk lower upper none _, ctx => by
    rw [Slice.step, Slice.lower]
    apply (Expr.gives_stepBound _ lower ctx).bind
    intro low
    exact (Expr.gives_stepBound _ upper ctx).done _
  | .mk lower upper (some step) _, ctx => by
    rw [Slice.step, Slice.lower]
    apply (Expr.gives_stepBound _ lower ctx).bind
    intro low
    apply (Expr.gives_stepBound _ upper ctx).bind
    intro high
    exact (step.gives_step ctx).done _

end

theorem Expr.step_eq (value : Expr) : value.step = Lowering.expr value :=
  funext value.gives_step

/-- The index of a subscript that is written gives the same six arguments. -/
theorem Index.gives_stepTarget (line : UInt32) (ctx : Context) : ∀ index : Index,
    (index.stepTarget line).Gives ctx (index.lowerTarget ctx.env ctx.scope ctx.priority line)
  | .item value => by
    cases value with
    | tuple pos items =>
      match items with
      | [row, column] =>
        rw [Index.stepTarget, Index.lowerTarget]
        apply (row.gives_step ctx).bind
        intro row'
        exact (column.gives_step ctx).done _
      | [] | [_] | _ :: _ :: _ :: _ => rfl
    | _ => exact (Expr.gives_step _ ctx).done _
  | .slice (.mk lower upper none _) => by
    rw [Index.stepTarget, Index.lowerTarget]
    apply (Expr.gives_stepBound _ lower ctx).bind
    intro low
    exact (Expr.gives_stepBound _ upper ctx).done _
  | .slice (.mk _ _ (some _) _) => rfl
  | .dims [.slice (.mk rowLow rowHigh none _), .slice (.mk columnLow columnHigh none _)] => by
    rw [Index.stepTarget, Index.lowerTarget]
    apply (Expr.gives_stepBound _ rowLow ctx).bind
    intro rowLow'
    apply (Expr.gives_stepBound _ rowHigh ctx).bind
    intro rowHigh'
    apply (Expr.gives_stepBound _ columnLow ctx).bind
    intro columnLow'
    exact (Expr.gives_stepBound _ columnHigh ctx).done _
  | .dims [] | .dims (.item _ :: _) | .dims (.slice (.mk _ _ (some _) _) :: _)
  | .dims [.slice (.mk _ _ none _)] | .dims (.slice (.mk _ _ none _) :: .item _ :: _)
  | .dims (.slice (.mk _ _ none _) :: .slice (.mk _ _ (some _) _) :: _)
  | .dims (.slice (.mk _ _ none _) :: .slice (.mk _ _ none _) :: _ :: _) => rfl

theorem Expr.gives_stepSet (line : UInt32) (base : Expr) (index : Index) (value : Expr)
    (ctx : Context) :
    (base.stepSet line index value).Gives ctx
      (Expr.lowerSet ctx.env ctx.scope ctx.priority line base index value) := by
  unfold Expr.stepSet Expr.lowerSet
  apply (base.gives_step ctx).bind
  intro base'
  apply (index.gives_stepTarget line ctx).bind
  intro selector
  exact (value.gives_step ctx).done _

theorem assignStep_eq (pos : Position) (target value : Expr) :
    assignStep pos target value = lowerAssign pos target value := by
  unfold assignStep lowerAssign
  cases target with
  | name place id => simp only [Expr.step_eq]
  | subscript place base index => exact funext (base.gives_stepSet pos.line index value)
  | _ => rfl

theorem augmentStep_eq (pos : Position) (target : Expr) (op : BinaryOperator) (value : Expr) :
    augmentStep pos target op value = lowerAugment pos target op value := by
  unfold augmentStep lowerAugment
  split
  · cases target with
    | name place id =>
      funext ctx
      -- The priority is read in front of the operand, which is lowered at another one.
      apply Lowering.gives_context
      have inner := value.gives_step { ctx with priority := InfixOperator.add.rightSlot }
      exact inner.withPriority.done
        _
    | _ => rfl
  · rfl

theorem returnStep_eq (pos : Position) (value : Option Expr) (allowed : Bool) :
    returnStep pos value allowed = lowerReturn pos value allowed := by
  unfold returnStep lowerReturn
  cases value with
  | none => rfl
  | some value =>
    dsimp only
    rw [value.step_eq]

theorem exprStmtStep_eq (pos : Position) (values : List Expr) :
    exprStmtStep pos values = lowerExprStmt pos values := by
  match values with
  | [value] =>
    rw [exprStmtStep, value.step_eq]
    rfl
  | [] | _ :: _ :: _ => rfl

mutual

/-- Lowering a statement is the same with the priority kept in the context. -/
theorem Stmt.step_eq (allow : Bool) : ∀ stmt : Stmt, stmt.step allow = stmt.lower allow
  | .function _ definition => by
    rw [Stmt.step, Stmt.lower, definition.step_eq]
  | .assign pos target value => by
    rw [Stmt.step, Stmt.lower, assignStep_eq]
  | .augment pos target op value => by
    rw [Stmt.step, Stmt.lower, augmentStep_eq]
  | .branch pos test body orelse => by
    rw [Stmt.step, Stmt.lower, test.step_eq, Stmt.stepAll_eq allow body,
      Stmt.stepAll_eq allow orelse]
  | .whileLoop pos test body [] => by
    rw [Stmt.step, Stmt.lower, test.step_eq, Stmt.stepAll_eq false body]
  | .whileLoop _ _ _ (_ :: _) => rfl
  | .forLoop pos target iter body [] => by
    rw [Stmt.step, Stmt.lower, target.step_eq, iter.step_eq, Stmt.stepAll_eq false body]
  | .forLoop _ _ _ _ (_ :: _) => rfl
  | .ret pos value => by
    rw [Stmt.step, Stmt.lower, returnStep_eq]
  | .expr pos values => by
    rw [Stmt.step, Stmt.lower, exprStmtStep_eq]
  | .unknown .. => rfl

theorem Stmt.stepAll_eq (allow : Bool) : ∀ stmts : List Stmt,
    Stmt.stepAll allow stmts = Stmt.lowerAll allow stmts
  | [] => rfl
  | stmt :: rest => by
    rw [Stmt.stepAll, Stmt.lowerAll, stmt.step_eq, Stmt.stepAll_eq allow rest]

theorem FunctionDef.step_eq : ∀ definition : FunctionDef, definition.step = definition.lower
  | .mk name params body pos => by
    rw [FunctionDef.step, FunctionDef.lower, Stmt.stepAll_eq true body]

end

/-- Lowering a node is the same with the priority kept in the context. -/
theorem Node.step_eq (allow : Bool) (node : Node) : node.step allow = node.lower allow := by
  cases node with
  | program value =>
    obtain ⟨body, imports⟩ := value
    cases body with
    | nil => rfl
    | cons first rest => exact first.step_eq false
  | function value => exact value.step_eq
  | stmt value => exact value.step_eq allow
  | expr value => exact value.step_eq
  | slice value => exact funext value.gives_step
  | dims parts pos => exact funext (Dim.gives_stepPair pos parts)

end CallForm
