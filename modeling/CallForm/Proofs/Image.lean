-- What a function means as compiled text: its image as a tree, made without
-- a word on priorities and parentheses, and the functions whose text can be
-- read back.
import CallForm.Proofs.Body
import CallForm.Proofs.CallTree

namespace CallForm

/-- An environment with its grouping chosen. -/
def Environment.grouping (env : Environment) (aggressively : Bool) : Environment :=
  { env with groupAggressively := aggressively }

/-! ## Functions whose text can be read back -/

mutual

/-- An expression whose names are identifiers, whose numbers are plain, and that has tuples only as
subscripts of two parts. -/
def Expr.isPlain : Expr → Bool
  | .name _ id => isIdentifier id
  | .number _ value => value.isPlain
  | .string .. | .constant .. | .unknown .. => true
  | .binary _ left _ right => left.isPlain && right.isPlain
  | .unary _ _ operand => operand.isPlain
  | .compare _ left _ comparators => left.isPlain && Expr.allPlain comparators
  | .call _ callee args => callee.isPlain && Expr.allPlain args
  | .attribute _ object member => object.isPlain && isIdentifier member
  | .subscript _ base index => base.isPlain && index.isPlain
  | .list _ items => Expr.allPlain items
  | .tuple .. => false
  | .lambda _ params body => params.all (isIdentifier ·.name) && body.isPlain

def Expr.allPlain : List Expr → Bool
  | [] => true
  | expr :: rest => expr.isPlain && Expr.allPlain rest

def Expr.boundPlain : Option Expr → Bool
  | none => true
  | some bound => bound.isPlain

def Index.isPlain : Index → Bool
  | .item (.tuple _ [first, second]) => first.isPlain && second.isPlain
  | .item value => value.isPlain
  | .slice bounds => bounds.isPlain
  | .dims parts => Dim.allPlain parts

def Dim.isPlain : Dim → Bool
  | .item value => value.isPlain
  | .slice bounds => bounds.isPlain

def Dim.allPlain : List Dim → Bool
  | [] => true
  | part :: rest => part.isPlain && Dim.allPlain rest

def Slice.isPlain : Slice → Bool
  | .mk lower upper step _ =>
    Expr.boundPlain lower && Expr.boundPlain upper && Expr.boundPlain step

end

/-- A plain expression, or a tuple of some, as a loop can run through. -/
def Expr.isPlainTarget : Expr → Bool
  | .tuple _ items => !items.isEmpty && Expr.allPlain items
  | target => target.isPlain

mutual

/-- A statement whose names are identifiers, whose numbers are plain, and that has tuples only as
subscripts of two parts and as targets of loops. -/
def Stmt.isPlain : Stmt → Bool
  | .function _ definition => definition.isPlain
  | .assign _ target value => target.isPlain && value.isPlain
  | .augment _ target _ value => target.isPlain && value.isPlain
  | .branch _ test body orelse => test.isPlain && Stmt.allPlain body && Stmt.allPlain orelse
  | .whileLoop _ test body orelse => test.isPlain && Stmt.allPlain body && Stmt.allPlain orelse
  | .forLoop _ target iter body orelse =>
    target.isPlainTarget && iter.isPlain && Stmt.allPlain body && Stmt.allPlain orelse
  | .ret _ value => Expr.boundPlain value
  | .expr _ values => Expr.allPlain values
  | .unknown .. => true

def Stmt.allPlain : List Stmt → Bool
  | [] => true
  | stmt :: rest => stmt.isPlain && Stmt.allPlain rest

/-- A function whose names are identifiers, whose numbers are plain, and that has tuples only as
subscripts of two parts and as targets of loops. -/
def FunctionDef.isPlain : FunctionDef → Bool
  | .mk name params body _ =>
    isIdentifier name && params.all (isIdentifier ·.name) && Stmt.allPlain body

end

/-! ## Images of expressions -/

namespace CallTree

/-- A symbol tagged with its place. -/
def tagged (pos : Position) (name : String) : CallTree := .symbol ⟨name, some pos⟩

/-- A call whose head is tagged with its place. -/
def taggedCall (pos : Position) (name : String) (args : List CallTree) : CallTree :=
  .call ⟨name, some pos⟩ args

/-- A call whose head is written bare. -/
def bareCall (name : String) (args : List CallTree) : CallTree := .call ⟨name, none⟩ args

/-- The literal `0`. -/
def zero : CallTree := .number "0"

/-- The literal `1`. -/
def one : CallTree := .number "1"

/-- The bound that is absent. -/
def nil : CallTree := .symbol ⟨Primitive.nil, none⟩

end CallTree

open CallTree

section

variable (env : Environment) (scope : Scope)

/-- What the object of `object.member` contributes as first argument, if it has an image. -/
def receiverImage (pos : Position) (object : Expr) (member : String)
    (image : Except LowerError CallTree) : Except LowerError (List CallTree) :=
  let unresolvable := LowerError.unresolvableReference object.dotted member pos.line
  match object with
  | .attribute .. =>
    if (env.references.resolve? member).isSome then .ok [] else .error unresolvable
  | .name place id =>
    if scope.isBound id then .ok [tagged place id]
    else if env.modules.exposes id member then .ok []
    else .error unresolvable
  | _ => image.map ([·])

mutual

/-- The image of an expression. A tuple has one only where it stands for several arguments. -/
def Expr.image : Expr → Except LowerError CallTree
  | .name pos id => .ok (tagged pos id)
  | .number _ value => .ok (.number (Fragment.number value))
  | .string _ value => .ok (.string value)
  | .constant pos value => .ok (tagged pos value.token)
  | .binary pos left op right => do
    let operator ← op.compile pos.line
    let left ← left.image
    let right ← right.image
    .ok (.between left operator right)
  | .unary pos op operand => do
    let operator ← op.compile pos.line
    let operand ← operand.image
    .ok (.before operator operand)
  | .compare pos left [op] [right] => do
    let operator ← op.compile pos.line
    let left ← left.image
    let right ← right.image
    .ok (.between left operator right)
  | .compare pos _ _ _ => .error (.chainedComparison pos.line)
  | .call pos (.name _ id) args => do
    let args ← Expr.images args
    .ok (taggedCall pos (callTarget id) args)
  | .call _ (.attribute pos object member) args => do
    let receiver ← receiverImage env scope pos object member object.image
    let args ← Expr.images args
    .ok (taggedCall pos (env.references.head member) (receiver ++ args))
  | .call _ callee _ => .error (.unsupportedNode callee.kindName callee.pos)
  | .attribute pos object member => do
    let receiver ← receiverImage env scope pos object member object.image
    .ok (taggedCall pos (env.references.head member) receiver)
  | .subscript pos base index => do
    let base ← base.image
    let selectors ← index.images pos
    .ok (taggedCall pos Primitive.slice (base :: selectors))
  | .list pos items => do
    let items ← Expr.images items
    .ok (taggedCall pos Primitive.makeList items)
  | .tuple pos _ => .error (.unsupportedNode "Tuple" pos)
  | .lambda pos params body => do
    let body ← body.image
    .ok (taggedCall pos Primitive.lambda
      (params.map (fun param => tagged param.pos param.name) ++ [bareCall Primitive.block [body]]))
  | .unknown pos kind => .error (.unsupportedNode kind pos)

/-- The images of several expressions, in order. -/
def Expr.images : List Expr → Except LowerError (List CallTree)
  | [] => .ok []
  | expr :: rest => do
    let first ← expr.image
    let others ← Expr.images rest
    .ok (first :: others)

/-- The image of a bound, or `absent` if there is none. -/
def Expr.boundImage (absent : CallTree) : Option Expr → Except LowerError CallTree
  | none => .ok absent
  | some bound => bound.image

/-- The images of what stands between the brackets of a subscript at `pos`. -/
def Index.images (pos : Position) : Index → Except LowerError (List CallTree)
  | .item (.tuple _ items) => Expr.images items
  | .item value => do
    let value ← value.image
    .ok [value]
  | .slice bounds => do
    let bounds ← bounds.image
    .ok [bounds]
  | .dims [first, second] => do
    let first ← first.image
    let second ← second.image
    .ok [first, second]
  | .dims _ => .error (.unsupportedSlicing pos.line)

/-- The image of one dimension. -/
def Dim.image : Dim → Except LowerError CallTree
  | .item value => value.image
  | .slice bounds => bounds.image

/-- The image of a slice. -/
def Slice.image : Slice → Except LowerError CallTree
  | .mk lower upper step _ => do
    let low ← Expr.boundImage zero lower
    let high ← Expr.boundImage CallTree.nil upper
    match step with
    | none => .ok (bareCall Primitive.makeList [low, high])
    | some step => do
      let step ← step.image
      .ok (bareCall Primitive.makeList [low, high, step])

end

/-- The images of the target of a loop. -/
def Expr.targetImages : Expr → Except LowerError (List CallTree)
  | .tuple _ items => Expr.images env scope items
  | target => do
    let target ← target.image env scope
    .ok [target]

/-- The images of the six arguments that tell the part an assignment at `line` writes. -/
def Index.partImages (line : UInt32) : Index → Except LowerError (List CallTree)
  | .slice (.mk lower upper none _) => do
    let low ← Expr.boundImage env scope zero lower
    let high ← Expr.boundImage env scope zero upper
    .ok [low, high, one, zero, zero, zero]
  | .item (.tuple _ [row, column]) => do
    let row ← row.image env scope
    let column ← column.image env scope
    .ok [row, zero, zero, column, zero, zero]
  | .item (.tuple ..) => .error (.unsupportedSlicing line)
  | .item value => do
    let item ← value.image env scope
    .ok [item, zero, zero, zero, zero, zero]
  | .dims [.slice (.mk rowLow rowHigh none _), .slice (.mk columnLow columnHigh none _)] => do
    let rowLow ← Expr.boundImage env scope zero rowLow
    let rowHigh ← Expr.boundImage env scope CallTree.nil rowHigh
    let columnLow ← Expr.boundImage env scope zero columnLow
    let columnHigh ← Expr.boundImage env scope CallTree.nil columnHigh
    .ok [rowLow, rowHigh, one, columnLow, columnHigh, one]
  | .slice _ | .dims _ => .error (.unsupportedSlicing line)

/-! ## Images of statements -/

/-- The image of statements in a place that holds one. -/
def blockImage (pos : Position) : List CallTree → CallTree
  | [single] => single
  | items => taggedCall pos Primitive.block items

/-- The image of `target = value`. -/
def assignImage (pos : Position) (target value : Expr) : Except LowerError CallTree :=
  match target with
  | .name place id => do
    let value ← value.image env (scope.bind id)
    .ok (taggedCall pos (scope.bindingOf id).primitive [tagged place id, value])
  | .subscript _ base index => do
    let base ← base.image env scope
    let part ← index.partImages env scope pos.line
    let value ← value.image env scope
    .ok (bareCall Primitive.set (base :: part ++ [value]))
  | _ => .error (.unsupportedSlicing pos.line)

/-- The image of `target op= value`. -/
def augmentImage (pos : Position) (target : Expr) (op : BinaryOperator) (value : Expr) :
    Except LowerError CallTree :=
  if op = .add then
    match target with
    | .name place id => do
      let value ← value.image env scope
      .ok (taggedCall pos Primitive.store
        [tagged place id, .between (tagged place id) .add value])
    | _ => .error (.unsupportedSlicing pos.line)
  else .error (.unsupportedOperator .augmented (op.text ++ "=") pos.line)

/-- The image of a `return`, where it is allowed. -/
def returnImage (pos : Position) (value : Option Expr) (allowed : Bool) :
    Except LowerError CallTree :=
  if allowed then
    match value with
    | some value => value.image env scope
    | none => .ok (tagged pos Primitive.nil)
  else .error (.misplacedReturn pos.line)

end

mutual

/-- The image of a statement of a body in which the names of `scope` are bound. -/
def Stmt.image (env : Environment) (scope : Scope) (allow : Bool) :
    Stmt → Except LowerError CallTree
  | .function _ definition => .error (.unsupportedNode "FunctionDef" definition.pos)
  | .assign pos target value => assignImage env scope pos target value
  | .augment pos target op value => augmentImage env scope pos target op value
  | .branch pos test body orelse => do
    let test ← test.image env scope
    let body' ← Stmt.images env scope allow body
    let orelse ← Stmt.images env (scope.bindAll (Stmt.assignedIn body)) allow orelse
    .ok (taggedCall pos Primitive.ifElse [test, blockImage pos body', blockImage pos orelse])
  | .whileLoop pos test body orelse =>
    if orelse.isEmpty then do
      let test ← test.image env scope
      let body ← Stmt.images env scope false body
      .ok (taggedCall pos Primitive.loop [test, blockImage pos body])
    else .error (.unsupportedNode "While.orelse" pos)
  | .forLoop pos target iter body orelse =>
    if orelse.isEmpty then do
      let items ← target.targetImages env scope
      let body' ← Stmt.images env scope false body
      let iterable ← iter.image env (scope.bindAll (Stmt.assignedIn body))
      let primitive := if iter.isParallelRange then Primitive.parallelMap else Primitive.map
      .ok (taggedCall pos primitive
        [taggedCall iter.pos Primitive.lambda (items ++ [bareCall Primitive.block body']),
          iterable])
    else .error (.unsupportedNode "For.orelse" pos)
  | .ret pos value => returnImage env scope pos value allow
  | .expr _ [value] => value.image env scope
  | .expr pos values => .error (.malformedExpression values.length pos.line)
  | .unknown pos kind => .error (.unsupportedNode kind pos)

/-- The images of statements of a body, one after another. -/
def Stmt.images (env : Environment) (scope : Scope) (allow : Bool) :
    List Stmt → Except LowerError (List CallTree)
  | [] => .ok []
  | stmt :: rest => do
    let first ← stmt.image env scope (allow && rest.isEmpty)
    let others ← Stmt.images env (scope.bindAll stmt.assigned) allow rest
    .ok (first :: others)

end

/-- The image of a function: the definition of its name, with its parameters and its body. -/
def FunctionDef.image (env : Environment) (definition : FunctionDef) :
    Except LowerError CallTree := do
  let body ← Stmt.images env (.ofParams (definition.params.map (·.name))) true definition.body
  .ok (taggedCall definition.pos Primitive.define
    (tagged definition.pos definition.name ::
      definition.params.map (fun param => tagged param.pos param.name) ++
        [blockImage definition.pos body]))

end CallForm
