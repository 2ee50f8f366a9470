-- The compiled form of a function as a tree: calls, operators between
-- operands, groups and atoms. Its text is `Ir.render`.
import CallForm.Ir.Fragment

namespace CallForm

/-! ## The tree -/

/-- A name, with the place it came from unless it is written bare. -/
structure Symbol where
  name : String
  tag : Option Position
deriving Repr, DecidableEq, Inhabited

/-- The operators that stand between two operands. -/
inductive InfixOperator
  | add | sub | mul | div | mod | pow
  | lt | gt | le | ge | eq | ne
deriving Repr, DecidableEq, Inhabited

/-- The operators that stand in front of an operand. -/
inductive PrefixOperator
  | neg | not
deriving Repr, DecidableEq, Inhabited

/-- Compiled form. Whether an operator is written with parentheses is part of it. -/
inductive Ir
  | symbol (head : Symbol)
  | number (value : Number)
  | string (value : String)
  | call (head : Symbol) (args : List Ir)
  | between (left : Ir) (operator : InfixOperator) (right : Ir) (grouped : Bool)
  | before (operator : PrefixOperator) (operand : Ir) (grouped : Bool)
  | group (inner : Ir)
  | sequence (items : List Ir)
deriving Inhabited

/-! ## Its text -/

/-- The text of an operator between operands. -/
def InfixOperator.text : InfixOperator → String
  | .add => "+"
  | .sub => "-"
  | .mul => "*"
  | .div => "/"
  | .mod => "%"
  | .pow => "**"
  | .lt => "<"
  | .gt => ">"
  | .le => "<="
  | .ge => ">="
  | .eq => "=="
  | .ne => "!="

/-- The text of an operator in front of an operand. -/
def PrefixOperator.text : PrefixOperator → String
  | .neg => "-"
  | .not => "!"

/-- The text of a symbol. -/
def Symbol.render (symbol : Symbol) : String :=
  match symbol.tag with
  | some pos => pos.tag symbol.name
  | none => symbol.name

mutual

/-- The text of compiled form. -/
def Ir.render : Ir → String
  | .symbol head => head.render
  | .number value => Fragment.number value
  | .string value => Fragment.quoted value
  | .call head args => Fragment.call head.render (Ir.renderAll args)
  | .between left operator right grouped =>
    Fragment.between left.render operator.text right.render grouped
  | .before operator operand grouped =>
    Fragment.before operator.text operand.render grouped
  | .group inner => Fragment.group inner.render
  | .sequence items => Fragment.join (Ir.renderAll items)

/-- The texts of several trees, in order. -/
def Ir.renderAll : List Ir → List String
  | [] => []
  | item :: rest => item.render :: Ir.renderAll rest

end

theorem Ir.renderAll_eq_map (items : List Ir) : renderAll items = items.map render := by
  induction items with
  | nil => simp [renderAll]
  | cons item rest ih => simp [renderAll, ih]

/-! ## Building it -/

namespace Ir

/-- A symbol tagged with its place. -/
def tagged (pos : Position) (name : String) : Ir :=
  .symbol ⟨name, some pos⟩

/-- A call whose head is tagged with its place. -/
def taggedCall (pos : Position) (name : String) (args : List Ir) : Ir :=
  .call ⟨name, some pos⟩ args

/-- A call whose head is written bare. -/
def bareCall (name : String) (args : List Ir) : Ir :=
  .call ⟨name, none⟩ args

/-- A symbol written bare. -/
def bare (name : String) : Ir :=
  .symbol ⟨name, none⟩

/-- The literal `0`. -/
def zero : Ir := .number (.int 0)

/-- The literal `1`. -/
def one : Ir := .number (.int 1)

end Ir

end CallForm
