-- Lowering expressions. An expression reads the environment and the scope
-- and changes neither. Only operators can stand without delimiters of
-- their own, so only they look at the priority of the place they stand in;
-- everything else lowers its parts at priority 0.
import CallForm.Lowering.Environment
import CallForm.Lowering.Priority
import CallForm.Lowering.Scope

namespace CallForm

/-! ## Names -/

/-- The call that marks a loop as parallel when the loop runs over it. -/
def parallelRange : String := "prange"

/-- The call that becomes the output primitive. -/
def printName : String := "print"

/-- The name emitted for a call of a bare name. -/
def callTarget (id : String) : String :=
  if id = printName then Primitive.output
  else if id = parallelRange then Primitive.range
  else id

/-- Whether an expression calls the parallel range. -/
def Expr.isParallelRange : Expr → Bool
  | .call _ (.name _ id) _ => id == parallelRange
  | _ => false

/-- The symbol of a named constant. -/
def Constant.token : Constant → String
  | .none => Primitive.nil
  | .false => Primitive.false
  | .true => Primitive.true

/-- Whether an expression is an operator with its operands. -/
def Expr.isOperation : Expr → Bool
  | .binary .. | .unary .. => true
  | _ => false

/-- An attribute's object as messages write it: dotted as far as it is names. -/
def Expr.dotted : Expr → String
  | .name _ id => id
  | .attribute _ object member => object.dotted ++ "." ++ member
  | other => other.kindName

/-! ## Qualified references -/

/-- What the object of `object.member` contributes as first argument. A bound name and any other
value contribute themselves, a module that exposes the member contributes nothing, and so does a
dotted object if the member has a primitive. `lowered` is the object's own compiled form. -/
def receiverOf (env : Environment) (scope : Scope) (pos : Position) (object : Expr)
    (member : String) (lowered : Except LowerError Ir) : Except LowerError (List Ir) :=
  let unresolvable := LowerError.unresolvableReference object.dotted member pos.line
  match object with
  | .attribute .. =>
    if (env.references.resolve? member).isSome then .ok [] else .error unresolvable
  | .name place id =>
    if scope.isBound id then .ok [Ir.tagged place id]
    else if env.modules.exposes id member then .ok []
    else .error unresolvable
  | _ => lowered.map ([·])

/-! ## Expressions -/

mutual

/-- The compiled form of an expression in a place of some priority. -/
def Expr.lower (env : Environment) (scope : Scope) (priority : Nat) :
    Expr → Except LowerError Ir
  | .name pos id => .ok (Ir.tagged pos id)
  | .number _ value => .ok (.number value)
  | .string _ value => .ok (.string value)
  | .constant pos value => .ok (Ir.tagged pos value.token)
  | .binary pos left op right => do
    let operator ← op.compile pos.line
    let lhs ← left.lower env scope operator.leftSlot
    let rhs ← right.lower env scope operator.rightSlot
    .ok (.between lhs operator rhs (env.groupAggressively || operator.priority < priority))
  | .unary pos op operand => do
    let operator ← op.compile pos.line
    let inner ← operand.lower env scope 0
    let written := Ir.before operator inner (env.groupAggressively || operand.isOperation)
    .ok (if PrefixOperator.priority < priority then .group written else written)
  | .compare pos left [op] [right] => do
    let operator ← op.compile pos.line
    let lhs ← left.lower env scope 0
    let rhs ← right.lower env scope 0
    .ok (.between lhs operator rhs true)
  | .compare pos _ _ _ => .error (.chainedComparison pos.line)
  | .call pos (.name _ id) args => do
    let args ← Expr.lowerAll env scope 0 args
    .ok (Ir.taggedCall pos (callTarget id) args)
  | .call _ (.attribute pos object member) args => do
    let receiver ← receiverOf env scope pos object member (object.lower env scope 0)
    let args ← Expr.lowerAll env scope 0 args
    .ok (Ir.taggedCall pos (env.references.head member) (receiver ++ args))
  | .call _ callee _ => .error (.unsupportedNode callee.kindName callee.pos)
  | .attribute pos object member => do
    let receiver ← receiverOf env scope pos object member (object.lower env scope 0)
    .ok (Ir.taggedCall pos (env.references.head member) receiver)
  | .subscript pos base index => do
    let base ← base.lower env scope 0
    let selector ← index.lower env scope pos
    .ok (Ir.taggedCall pos Primitive.slice [base, selector])
  | .list pos items => do
    let items ← Expr.lowerAll env scope 0 items
    .ok (Ir.taggedCall pos Primitive.makeList items)
  | .tuple _ items => do
    let items ← Expr.lowerAll env scope 0 items
    .ok (.sequence items)
  | .lambda pos params body => do
    let body ← body.lower env scope 0
    let params := params.map fun param => Ir.tagged param.pos param.name
    .ok (Ir.taggedCall pos Primitive.lambda (params ++ [Ir.bareCall Primitive.block [body]]))
  | .unknown pos kind => .error (.unsupportedNode kind pos)

/-- The compiled forms of several expressions, in order. -/
def Expr.lowerAll (env : Environment) (scope : Scope) (priority : Nat) :
    List Expr → Except LowerError (List Ir)
  | [] => .ok []
  | expr :: rest => do
    let first ← expr.lower env scope priority
    let others ← Expr.lowerAll env scope priority rest
    .ok (first :: others)

/-- The compiled form of a bound, or `absent` if there is none. -/
def Expr.lowerBound (env : Environment) (scope : Scope) (priority : Nat) (absent : Ir) :
    Option Expr → Except LowerError Ir
  | none => .ok absent
  | some bound => bound.lower env scope priority

/-- The selector that a subscript at `pos` reads with. -/
def Index.lower (env : Environment) (scope : Scope) (pos : Position) :
    Index → Except LowerError Ir
  | .item value => value.lower env scope 0
  | .slice bounds => bounds.lower env scope 0
  | .dims [first, second] => do
    let first ← first.lower env scope 0
    let second ← second.lower env scope 0
    .ok (.sequence [first, second])
  | .dims _ => .error (.unsupportedSlicing pos.line)

/-- The selector of one dimension. -/
def Dim.lower (env : Environment) (scope : Scope) (priority : Nat) :
    Dim → Except LowerError Ir
  | .item value => value.lower env scope priority
  | .slice bounds => bounds.lower env scope priority

/-- The selector of a slice: its lower bound or `0`, its upper bound or nothing, and its step if
it has one. -/
def Slice.lower (env : Environment) (scope : Scope) (priority : Nat) :
    Slice → Except LowerError Ir
  | .mk lower upper step _ => do
    let low ← Expr.lowerBound env scope priority Ir.zero lower
    let high ← Expr.lowerBound env scope priority (Ir.bare Primitive.nil) upper
    match step with
    | none => .ok (Ir.bareCall Primitive.makeList [low, high])
    | some step => do
      let step ← step.lower env scope priority
      .ok (Ir.bareCall Primitive.makeList [low, high, step])

end

/-- The selector of a subscript at `pos` with several dimensions: it must have two. -/
def Dim.lowerPair (env : Environment) (scope : Scope) (priority : Nat) (pos : Position) :
    List Dim → Except LowerError Ir
  | [first, second] => do
    let first ← first.lower env scope priority
    let second ← second.lower env scope priority
    .ok (.sequence [first, second])
  | _ => .error (.unsupportedSlicing pos.line)

end CallForm
