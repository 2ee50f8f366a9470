-- Every way in which a tree can be spelled as a JSON value, one clause for
-- each form of it. The fields of a struct come in any order among any other
-- entries, or as an array; a field that may be missing may also be `null`; a
-- form that holds nothing is its bare label or holds `null`.
import Mathlib.Data.List.Forall2
import CallForm.Tree.Decode
import CallForm.Tree.Encode

namespace CallForm

namespace Json

/-! ## Structs and forms -/

/-- What the entries of an object give for a name: the value of the only one under it, or nothing
if there is none. -/
def Holds (entries : List (String × Json)) (name : String) (value : Option Json) : Prop :=
  valuesOf name entries = value.toList

/-- An object with the given fields, in any order and among any other entries. -/
def IsObject (names : List String) (values : List (Option Json)) (json : Json) : Prop :=
  ∃ entries, json = .object entries ∧ List.Forall₂ (Holds entries) names values

/-- A struct with the given fields: an object, or the array of just these fields in order. -/
def IsStruct (names : List String) (values : List (Option Json)) (json : Json) : Prop :=
  IsObject names values json ∨
    ∃ items, json = .array items ∧ items.length = names.length ∧ values = items.map some

/-- The contents of a form with the given fields: a struct in a text, and an object in a value
read before. -/
def IsContents (source : TreeSource) (names : List String) (values : List (Option Json))
    (json : Json) : Prop :=
  match source with
  | .text => IsStruct names values json
  | .value => IsObject names values json

/-- A form that holds nothing. -/
def IsBare (label : String) (json : Json) : Prop :=
  json = .string label ∨ json = .labelled label .null

/-- A whole number of 32 bits. -/
def word (value : UInt32) : Json := .number (.int value.toNat)

end Json

/-- A JSON number as a double. -/
def JsonNumber.toDouble : JsonNumber → Float
  | .int n => if n < 0 then -Float.ofNat n.natAbs else Float.ofNat n.natAbs
  | .float x => x

/-! ## Leaves -/

/-- A struct of line and column. -/
def Position.SpelledBy (pos : Position) (json : Json) : Prop :=
  json.IsStruct ["line", "column"] [some (.word pos.line), some (.word pos.column)]

/-- A whole number, or any number that stands for the double. -/
def Number.SpelledBy : Number → Json → Prop
  | .int value, json => json = .labelled "Int" (.number (.int value.toInt))
  | .float value, json =>
    ∃ number : JsonNumber, json = .labelled "Float" (.number number) ∧ number.toDouble = value

/-- A struct of name and place. -/
def Param.SpelledBy (param : Param) (json : Json) : Prop :=
  ∃ pos, json.IsStruct ["name", "pos"] [some (.string param.name), some pos] ∧
    param.pos.SpelledBy pos

/-- A struct of the two names. -/
def Import.SpelledBy (entry : Import) (json : Json) : Prop :=
  json.IsStruct ["module", "binding"] [some (.string entry.source), some (.string entry.binding)]

/-! ## Expressions -/

section

variable (source : TreeSource)

mutual

/-- A struct of form and place. -/
def Expr.SpelledBy (expr : Expr) (json : Json) : Prop :=
  ∃ kind pos, json.IsStruct ["kind", "pos"] [some kind, some pos] ∧
    expr.KindSpelledBy kind ∧ expr.pos.SpelledBy pos

/-- The label of the form with what it holds. -/
def Expr.KindSpelledBy : Expr → Json → Prop
  | .name _ id, json => json = .labelled "Name" (.string id)
  | .number _ value, json => ∃ number, json = .labelled "Number" number ∧ value.SpelledBy number
  | .string _ value, json => json = .labelled "Str" (.string value)
  | .constant _ value, json =>
    ∃ name, json = .labelled "Constant" name ∧ name.IsBare value.label
  | .binary _ left op right, json =>
    ∃ contents lhs operator rhs, json = .labelled "BinOp" contents ∧
      contents.IsContents source ["left", "op", "right"] [some lhs, some operator, some rhs] ∧
      left.SpelledBy lhs ∧ operator.IsBare op.label ∧ right.SpelledBy rhs
  | .unary _ op operand, json =>
    ∃ contents operator inner, json = .labelled "UnaryOp" contents ∧
      contents.IsContents source ["op", "operand"] [some operator, some inner] ∧
      operator.IsBare op.label ∧ operand.SpelledBy inner
  | .compare _ left ops comparators, json =>
    ∃ contents lhs operators others, json = .labelled "Compare" contents ∧
      contents.IsContents source ["left", "ops", "comparators"]
        [some lhs, some (.array operators), some (.array others)] ∧
      left.SpelledBy lhs ∧ List.Forall₂ (fun op json => json.IsBare op.label) ops operators ∧
      Expr.AllSpelledBy comparators others
  | .call _ callee args, json =>
    ∃ contents func items, json = .labelled "Call" contents ∧
      contents.IsContents source ["func", "args"] [some func, some (.array items)] ∧
      callee.SpelledBy func ∧ Expr.AllSpelledBy args items
  | .attribute _ object member, json =>
    ∃ contents value, json = .labelled "Attribute" contents ∧
      contents.IsContents source ["value", "attr"] [some value, some (.string member)] ∧
      object.SpelledBy value
  | .subscript _ base index, json =>
    ∃ contents value brackets, json = .labelled "Subscript" contents ∧
      contents.IsContents source ["value", "index"] [some value, some brackets] ∧
      base.SpelledBy value ∧ index.SpelledBy brackets
  | .list _ items, json =>
    ∃ others, json = .labelled "List" (.array others) ∧ Expr.AllSpelledBy items others
  | .tuple _ items, json =>
    ∃ others, json = .labelled "Tuple" (.array others) ∧ Expr.AllSpelledBy items others
  | .lambda _ params body, json =>
    ∃ contents names inner, json = .labelled "Lambda" contents ∧
      contents.IsContents source ["params", "body"] [some (.array names), some inner] ∧
      List.Forall₂ Param.SpelledBy params names ∧ body.SpelledBy inner
  | .unknown _ kind, json => json = .labelled "Unknown" (.string kind)

/-- Several expressions, one by one. -/
def Expr.AllSpelledBy : List Expr → List Json → Prop
  | [], items => items = []
  | expr :: rest, items =>
    ∃ item, expr.SpelledBy item ∧ ∃ others, Expr.AllSpelledBy rest others ∧ items = item :: others

/-- A field that is missing or `null`, or holds an expression. -/
def Expr.OptionSpelledBy : Option Expr → Option Json → Prop
  | none, field => field = none ∨ field = some .null
  | some expr, field => ∃ json, field = some json ∧ expr.SpelledBy json

/-- The shape of an index with what it holds. -/
def Index.SpelledBy : Index → Json → Prop
  | .item value, json => ∃ inner, json = .labelled "Index" inner ∧ value.SpelledBy inner
  | .slice bounds, json => ∃ inner, json = .labelled "Slice" inner ∧ bounds.SpelledBy inner
  | .dims parts, json =>
    ∃ items, json = .labelled "ExtSlice" (.array items) ∧ Dim.AllSpelledBy parts items

/-- The shape of a dimension with what it holds. -/
def Dim.SpelledBy : Dim → Json → Prop
  | .item value, json => ∃ inner, json = .labelled "Index" inner ∧ value.SpelledBy inner
  | .slice bounds, json => ∃ inner, json = .labelled "Slice" inner ∧ bounds.SpelledBy inner

/-- Several dimensions, one by one. -/
def Dim.AllSpelledBy : List Dim → List Json → Prop
  | [], items => items = []
  | part :: rest, items =>
    ∃ item, part.SpelledBy item ∧ ∃ others, Dim.AllSpelledBy rest others ∧ items = item :: others

/-- A struct of the bounds and the place. -/
def Slice.SpelledBy : Slice → Json → Prop
  | .mk lower upper step pos, json =>
    ∃ low high stride place,
      json.IsStruct ["lower", "upper", "step", "pos"] [low, high, stride, some place] ∧
      Expr.OptionSpelledBy lower low ∧ Expr.OptionSpelledBy upper high ∧
      Expr.OptionSpelledBy step stride ∧ pos.SpelledBy place

end

/-! ## Statements -/

mutual

/-- A struct of form and place. -/
def Stmt.SpelledBy (stmt : Stmt) (json : Json) : Prop :=
  ∃ kind pos, json.IsStruct ["kind", "pos"] [some kind, some pos] ∧
    stmt.KindSpelledBy kind ∧ stmt.pos.SpelledBy pos

/-- The label of the form with what it holds. -/
def Stmt.KindSpelledBy : Stmt → Json → Prop
  | .function _ definition, json =>
    ∃ inner, json = .labelled "FunctionDef" inner ∧ definition.SpelledBy inner
  | .assign _ target value, json =>
    ∃ contents left right, json = .labelled "Assign" contents ∧
      contents.IsContents source ["target", "value"] [some left, some right] ∧
      target.SpelledBy source left ∧ value.SpelledBy source right
  | .augment _ target op value, json =>
    ∃ contents left operator right, json = .labelled "AugAssign" contents ∧
      contents.IsContents source ["target", "op", "value"]
        [some left, some operator, some right] ∧
      target.SpelledBy source left ∧ operator.IsBare op.label ∧ value.SpelledBy source right
  | .branch _ test body orelse, json =>
    ∃ contents condition first second, json = .labelled "If" contents ∧
      contents.IsContents source ["test", "body", "orelse"]
        [some condition, some (.array first), some (.array second)] ∧
      test.SpelledBy source condition ∧ Stmt.AllSpelledBy body first ∧
      Stmt.AllSpelledBy orelse second
  | .whileLoop _ test body orelse, json =>
    ∃ contents condition first second, json = .labelled "While" contents ∧
      contents.IsContents source ["test", "body", "orelse"]
        [some condition, some (.array first), some (.array second)] ∧
      test.SpelledBy source condition ∧ Stmt.AllSpelledBy body first ∧
      Stmt.AllSpelledBy orelse second
  | .forLoop _ target iter body orelse, json =>
    ∃ contents left iterable first second, json = .labelled "For" contents ∧
      contents.IsContents source ["target", "iter", "body", "orelse"]
        [some left, some iterable, some (.array first), some (.array second)] ∧
      target.SpelledBy source left ∧ iter.SpelledBy source iterable ∧
      Stmt.AllSpelledBy body first ∧ Stmt.AllSpelledBy orelse second
  | .ret _ value, json =>
    ∃ contents field, json = .labelled "Return" contents ∧
      contents.IsContents source ["value"] [field] ∧ Expr.OptionSpelledBy source value field
  | .expr _ values, json =>
    ∃ contents items, json = .labelled "Expr" contents ∧
      contents.IsContents source ["values"] [some (.array items)] ∧
      Expr.AllSpelledBy source values items
  | .unknown _ kind, json => json = .labelled "Unknown" (.string kind)

/-- Several statements, one by one. -/
def Stmt.AllSpelledBy : List Stmt → List Json → Prop
  | [], items => items = []
  | stmt :: rest, items =>
    ∃ item, stmt.SpelledBy item ∧ ∃ others, Stmt.AllSpelledBy rest others ∧ items = item :: others

/-- A struct of name, parameters, body and place. -/
def FunctionDef.SpelledBy : FunctionDef → Json → Prop
  | .mk name params body pos, json =>
    ∃ names items place, json.IsStruct ["name", "params", "body", "pos"]
        [some (.string name), some (.array names), some (.array items), some place] ∧
      List.Forall₂ Param.SpelledBy params names ∧ Stmt.AllSpelledBy body items ∧
      pos.SpelledBy place

end

/-- A struct of statements and imports. If there are no imports, their field may be left off. -/
def Program.SpelledBy (program : Program) (json : Json) : Prop :=
  ∃ items imports,
    (json.IsStruct ["body", "imports"] [some (.array items), imports.map .array] ∨
      json = .array [.array items] ∧ imports = none) ∧
    Stmt.AllSpelledBy source program.body items ∧
    List.Forall₂ Import.SpelledBy program.imports (imports.getD [])

end

end CallForm
