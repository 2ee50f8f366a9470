-- Trees out of JSON values. Beside the form that encoding produces, a
-- struct may be the array of its fields, its object may hold other keys,
-- an optional field may be missing, and a form that holds nothing may be
-- written with `null` for its contents.
import CallForm.Tree.Label
import CallForm.Decimal.Numeral
import CallForm.Json.Basic

namespace CallForm

/-- Where the format is read from: in a text the fields of a form may be an array too, in a value
read before only an object. -/
inductive TreeSource
  | text | value
deriving Repr, DecidableEq

namespace Json

/-! ## Structs and forms -/

/-- The field with a name: nothing if it is missing, and no answer if it is there twice. -/
def field? (entries : List (String × Json)) (name : String) : Option (Option Json) :=
  match valuesOf name entries with
  | [] => some none
  | [value] => some (some value)
  | _ => none

/-- The fields with these names, out of an object. -/
def namedFields? (names : List String) : Json → Option (List (Option Json))
  | .object entries => names.mapM (field? entries)
  | _ => none

/-- The fields with these names, out of an object or out of an array with just these fields. -/
def fields? (names : List String) : Json → Option (List (Option Json))
  | .array items => if items.length = names.length then some (items.map some) else none
  | other => namedFields? names other

/-- The fields of a form with these names. -/
def formFields? (source : TreeSource) (names : List String) (payload : Json) :
    Option (List (Option Json)) :=
  match source with
  | .text => fields? names payload
  | .value => namedFields? names payload

/-- The label of a form, and what it holds if it is not a bare label. -/
def form? : Json → Option (String × Option Json)
  | .string label => some (label, none)
  | .object [(label, payload)] => some (label, some payload)
  | _ => none

/-- The label of a form that holds nothing. -/
def bareLabel? (json : Json) : Option String :=
  match form? json with
  | some (label, none) | some (label, some .null) => some label
  | _ => none

/-! ## Leaves -/

/-- A string. -/
def string? : Json → Option String
  | .string value => some value
  | _ => none

/-- The items of an array. -/
def items? : Json → Option (List Json)
  | .array items => some items
  | _ => none

/-- A whole number of 32 bits. -/
def word32? : Json → Option UInt32
  | .number (.int n) => Word.unsigned32? n
  | _ => none

/-- A signed whole number of 64 bits. -/
def int64? : Json → Option Int64
  | .number (.int n) => Word.signed64? n
  | _ => none

/-- Any number, as a double. -/
def double? : Json → Option Float
  | .number (.int n) => some (if n < 0 then -Float.ofNat n.natAbs else Float.ofNat n.natAbs)
  | .number (.float x) => some x
  | _ => none

end Json

/-- The place that a struct of line and column gives. -/
def Position.decode? (json : Json) : Option Position :=
  match json.fields? ["line", "column"] with
  | some [some line, some column] => do
    let line ← line.word32?
    let column ← column.word32?
    some { line, column }
  | _ => none

/-- The number literal of a form. -/
def Number.decode? (json : Json) : Option Number :=
  match json.form? with
  | some ("Int", some payload) => payload.int64?.map .int
  | some ("Float", some payload) => payload.double?.map .float
  | _ => none

/-- The named constant of a bare label. -/
def Constant.decode? (json : Json) : Option Constant :=
  json.bareLabel?.bind Constant.ofLabel?

/-- The binary operator of a bare label. -/
def BinaryOperator.decode? (json : Json) : Option BinaryOperator :=
  json.bareLabel?.bind BinaryOperator.ofLabel?

/-- The unary operator of a bare label. -/
def UnaryOperator.decode? (json : Json) : Option UnaryOperator :=
  json.bareLabel?.bind UnaryOperator.ofLabel?

/-- The comparison of a bare label. -/
def Comparison.decode? (json : Json) : Option Comparison :=
  json.bareLabel?.bind Comparison.ofLabel?

/-- The parameter of a struct. -/
def Param.decode? (json : Json) : Option Param :=
  match json.fields? ["name", "pos"] with
  | some [some name, some pos] => do
    let name ← name.string?
    let pos ← Position.decode? pos
    some { name, pos }
  | _ => none

/-- The import of a struct. -/
def Import.decode? (json : Json) : Option Import :=
  match json.fields? ["module", "binding"] with
  | some [some source, some binding] => do
    let source ← source.string?
    let binding ← binding.string?
    some { source, binding }
  | _ => none

/-- An array of things that `read` can decode. -/
def Json.arrayOf? {α : Type} (read : Json → Option α) (json : Json) : Option (List α) :=
  json.items?.bind (·.mapM read)

/-- A field that may be missing or `null`. -/
def Json.optional? {α : Type} (read : Json → Option α) : Option Json → Option (Option α)
  | none | some .null => some none
  | some json => (read json).map some

/-! ## Expressions -/

mutual

/-- The expression of a struct. The fuel bounds the depth. -/
def Expr.decode? (source : TreeSource) : Nat → Json → Option Expr
  | 0, _ => none
  | fuel + 1, json =>
    match json.fields? ["kind", "pos"] with
    | some [some kind, some pos] => do
      let make ← Expr.decodeKind? source fuel kind
      let pos ← Position.decode? pos
      some (make pos)
    | _ => none

/-- The expression of a form, but for its place. -/
def Expr.decodeKind? (source : TreeSource) : Nat → Json → Option (Position → Expr)
  | 0, _ => none
  | fuel + 1, json =>
    match json.form? with
    | some ("Name", some payload) => do
      let id ← payload.string?
      some (.name · id)
    | some ("Number", some payload) => do
      let value ← Number.decode? payload
      some (.number · value)
    | some ("Str", some payload) => do
      let value ← payload.string?
      some (.string · value)
    | some ("Constant", some payload) => do
      let value ← Constant.decode? payload
      some (.constant · value)
    | some ("BinOp", some payload) =>
      match payload.formFields? source ["left", "op", "right"] with
      | some [some left, some op, some right] => do
        let left ← Expr.decode? source fuel left
        let op ← BinaryOperator.decode? op
        let right ← Expr.decode? source fuel right
        some (.binary · left op right)
      | _ => none
    | some ("UnaryOp", some payload) =>
      match payload.formFields? source ["op", "operand"] with
      | some [some op, some operand] => do
        let op ← UnaryOperator.decode? op
        let operand ← Expr.decode? source fuel operand
        some (.unary · op operand)
      | _ => none
    | some ("Compare", some payload) =>
      match payload.formFields? source ["left", "ops", "comparators"] with
      | some [some left, some ops, some comparators] => do
        let left ← Expr.decode? source fuel left
        let ops ← ops.arrayOf? Comparison.decode?
        let comparators ← comparators.arrayOf? (Expr.decode? source fuel)
        some (.compare · left ops comparators)
      | _ => none
    | some ("Call", some payload) =>
      match payload.formFields? source ["func", "args"] with
      | some [some callee, some args] => do
        let callee ← Expr.decode? source fuel callee
        let args ← args.arrayOf? (Expr.decode? source fuel)
        some (.call · callee args)
      | _ => none
    | some ("Attribute", some payload) =>
      match payload.formFields? source ["value", "attr"] with
      | some [some object, some member] => do
        let object ← Expr.decode? source fuel object
        let member ← member.string?
        some (.attribute · object member)
      | _ => none
    | some ("Subscript", some payload) =>
      match payload.formFields? source ["value", "index"] with
      | some [some base, some index] => do
        let base ← Expr.decode? source fuel base
        let index ← Index.decode? source fuel index
        some (.subscript · base index)
      | _ => none
    | some ("List", some payload) => do
      let items ← payload.arrayOf? (Expr.decode? source fuel)
      some (.list · items)
    | some ("Tuple", some payload) => do
      let items ← payload.arrayOf? (Expr.decode? source fuel)
      some (.tuple · items)
    | some ("Lambda", some payload) =>
      match payload.formFields? source ["params", "body"] with
      | some [some params, some body] => do
        let params ← params.arrayOf? Param.decode?
        let body ← Expr.decode? source fuel body
        some (.lambda · params body)
      | _ => none
    | some ("Unknown", some payload) => do
      let kind ← payload.string?
      some (.unknown · kind)
    | _ => none

/-- The index of a form. -/
def Index.decode? (source : TreeSource) : Nat → Json → Option Index
  | 0, _ => none
  | fuel + 1, json =>
    match json.form? with
    | some ("Index", some payload) => (Expr.decode? source fuel payload).map .item
    | some ("Slice", some payload) => (Slice.decode? source fuel payload).map .slice
    | some ("ExtSlice", some payload) =>
      (payload.arrayOf? (Dim.decode? source fuel)).map .dims
    | _ => none

/-- The dimension of a form. -/
def Dim.decode? (source : TreeSource) : Nat → Json → Option Dim
  | 0, _ => none
  | fuel + 1, json =>
    match json.form? with
    | some ("Index", some payload) => (Expr.decode? source fuel payload).map .item
    | some ("Slice", some payload) => (Slice.decode? source fuel payload).map .slice
    | _ => none

/-- The slice of a struct. -/
def Slice.decode? (source : TreeSource) : Nat → Json → Option Slice
  | 0, _ => none
  | fuel + 1, json =>
    match json.fields? ["lower", "upper", "step", "pos"] with
    | some [lower, upper, step, some pos] => do
      let lower ← Json.optional? (Expr.decode? source fuel) lower
      let upper ← Json.optional? (Expr.decode? source fuel) upper
      let step ← Json.optional? (Expr.decode? source fuel) step
      let pos ← Position.decode? pos
      some (.mk lower upper step pos)
    | _ => none

end

/-! ## Statements -/

mutual

/-- The statement of a struct. -/
def Stmt.decode? (source : TreeSource) : Nat → Json → Option Stmt
  | 0, _ => none
  | fuel + 1, json =>
    match json.fields? ["kind", "pos"] with
    | some [some kind, some pos] => do
      let make ← Stmt.decodeKind? source fuel kind
      let pos ← Position.decode? pos
      some (make pos)
    | _ => none

/-- The statement of a form, but for its place. -/
def Stmt.decodeKind? (source : TreeSource) : Nat → Json → Option (Position → Stmt)
  | 0, _ => none
  | fuel + 1, json =>
    match json.form? with
    | some ("FunctionDef", some payload) => do
      let definition ← FunctionDef.decode? source fuel payload
      some (.function · definition)
    | some ("Assign", some payload) =>
      match payload.formFields? source ["target", "value"] with
      | some [some target, some value] => do
        let target ← Expr.decode? source fuel target
        let value ← Expr.decode? source fuel value
        some (.assign · target value)
      | _ => none
    | some ("AugAssign", some payload) =>
      match payload.formFields? source ["target", "op", "value"] with
      | some [some target, some op, some value] => do
        let target ← Expr.decode? source fuel target
        let op ← BinaryOperator.decode? op
        let value ← Expr.decode? source fuel value
        some (.augment · target op value)
      | _ => none
    | some ("If", some payload) =>
      match payload.formFields? source ["test", "body", "orelse"] with
      | some [some test, some body, some orelse] => do
        let test ← Expr.decode? source fuel test
        let body ← body.arrayOf? (Stmt.decode? source fuel)
        let orelse ← orelse.arrayOf? (Stmt.decode? source fuel)
        some (.branch · test body orelse)
      | _ => none
    | some ("While", some payload) =>
      match payload.formFields? source ["test", "body", "orelse"] with
      | some [some test, some body, some orelse] => do
        let test ← Expr.decode? source fuel test
        let body ← body.arrayOf? (Stmt.decode? source fuel)
        let orelse ← orelse.arrayOf? (Stmt.decode? source fuel)
        some (.whileLoop · test body orelse)
      | _ => none
    | some ("For", some payload) =>
      match payload.formFields? source ["target", "iter", "body", "orelse"] with
      | some [some target, some iter, some body, some orelse] => do
        let target ← Expr.decode? source fuel target
        let iter ← Expr.decode? source fuel iter
        let body ← body.arrayOf? (Stmt.decode? source fuel)
        let orelse ← orelse.arrayOf? (Stmt.decode? source fuel)
        some (.forLoop · target iter body orelse)
      | _ => none
    | some ("Return", some payload) =>
      match payload.formFields? source ["value"] with
      | some [value] => do
        let value ← Json.optional? (Expr.decode? source fuel) value
        some (.ret · value)
      | _ => none
    | some ("Expr", some payload) =>
      match payload.formFields? source ["values"] with
      | some [some values] => do
        let values ← values.arrayOf? (Expr.decode? source fuel)
        some (.expr · values)
      | _ => none
    | some ("Unknown", some payload) => do
      let kind ← payload.string?
      some (.unknown · kind)
    | _ => none

/-- The function definition of a struct. -/
def FunctionDef.decode? (source : TreeSource) : Nat → Json → Option FunctionDef
  | 0, _ => none
  | fuel + 1, json =>
    match json.fields? ["name", "params", "body", "pos"] with
    | some [some name, some params, some body, some pos] => do
      let name ← name.string?
      let params ← params.arrayOf? Param.decode?
      let body ← body.arrayOf? (Stmt.decode? source fuel)
      let pos ← Position.decode? pos
      some (.mk name params body pos)
    | _ => none

end

/-! ## Whole values -/

/-- Decodes with as much fuel as the depth of the value asks for. -/
def Json.decodeWith {α : Type} (read : Nat → Json → Option α) (json : Json) : Option α :=
  read (2 * json.depth + 2) json

/-- The fields of a program: as an array it may leave its imports off. -/
def Program.fields? : Json → Option (List (Option Json))
  | .array [body] => some [some body, none]
  | other => other.fields? ["body", "imports"]

/-- The program of a struct; missing imports are none. -/
def Program.decode? (source : TreeSource) (json : Json) : Option Program :=
  match Program.fields? json with
  | some [some body, imports] => do
    let body ← body.arrayOf? (Json.decodeWith (Stmt.decode? source))
    let imports ←
      match imports with
      | none => some []
      | some imports => imports.arrayOf? Import.decode?
    some { body, imports }
  | _ => none

end CallForm
