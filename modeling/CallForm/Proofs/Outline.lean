-- The outline of compiled expressions. Most of them have a delimiter of their
-- own at both ends, or are one word; an operator and a tuple may be written
-- with nothing around them, and then what is inside shows.
import CallForm.Proofs.Outcome

namespace CallForm

/-- Whether an expression is neither an operator with its operands nor a tuple. -/
def Expr.isAtom : Expr → Bool
  | .binary .. | .unary .. | .tuple .. => false
  | _ => true

/-- Whether a compiled form is a word with a place, a literal, a call, or stands in parentheses. -/
def Ir.isAtom : Ir → Bool
  | .symbol head => head.tag.isSome
  | .number _ | .string _ | .call .. | .group _ => true
  | .between _ _ _ grouped => grouped
  | .before .. | .sequence _ => false

/-- The number that an expression is, if it is one. -/
def Expr.number? : Expr → Option Number
  | .number _ value => some value
  | _ => none

/-- The number that a compiled form is, if it is one. -/
def Ir.number? : Ir → Option Number
  | .number value => some value
  | _ => none

section

variable {env : Environment} {scope : Scope} {priority : Nat} {form : Ir}

/-- An atom is compiled to one, and to a number only if it is that number. -/
theorem Expr.lower_of_isAtom {value : Expr} (atom : value.isAtom = true)
    (h : value.lower env scope priority = .ok form) :
    form.isAtom = true ∧ form.number? = value.number? := by
  cases value with
  | name | number | string | constant =>
    cases h
    exact ⟨rfl, rfl⟩
  | binary | unary | tuple => cases atom
  | compare pos left ops comparators =>
    match ops, comparators with
    | [op], [right] =>
      obtain ⟨operator, _, h⟩ := bind_eq_ok.mp h
      obtain ⟨lhs, _, h⟩ := bind_eq_ok.mp h
      obtain ⟨rhs, _, h⟩ := bind_eq_ok.mp h
      cases h
      exact ⟨rfl, rfl⟩
    | [], _ | _ :: _ :: _, _ | [_], [] | [_], _ :: _ :: _ => cases h
  | call pos callee args =>
    cases callee with
    | name at' id =>
      obtain ⟨forms, _, h⟩ := bind_eq_ok.mp h
      cases h
      exact ⟨rfl, rfl⟩
    | «attribute» at' object member =>
      obtain ⟨receiver, _, h⟩ := bind_eq_ok.mp h
      obtain ⟨forms, _, h⟩ := bind_eq_ok.mp h
      cases h
      exact ⟨rfl, rfl⟩
    | _ => cases h
  | «attribute» pos object member =>
    obtain ⟨receiver, _, h⟩ := bind_eq_ok.mp h
    cases h
    exact ⟨rfl, rfl⟩
  | subscript pos base index =>
    obtain ⟨first, _, h⟩ := bind_eq_ok.mp h
    obtain ⟨selector, _, h⟩ := bind_eq_ok.mp h
    cases h
    exact ⟨rfl, rfl⟩
  | list pos items =>
    obtain ⟨forms, _, h⟩ := bind_eq_ok.mp h
    cases h
    exact ⟨rfl, rfl⟩
  | lambda pos params body =>
    obtain ⟨inner, _, h⟩ := bind_eq_ok.mp h
    cases h
    exact ⟨rfl, rfl⟩
  | unknown => cases h

theorem Expr.lower_binary_eq_ok {pos : Position} {left right : Expr} {op : BinaryOperator}
    (h : (Expr.binary pos left op right).lower env scope priority = .ok form) :
    ∃ operator lhs rhs, op.compiled? = some operator ∧
      left.lower env scope operator.leftSlot = .ok lhs ∧
      right.lower env scope operator.rightSlot = .ok rhs ∧
      form = .between lhs operator rhs
        (env.groupAggressively || operator.priority < priority) := by
  obtain ⟨operator, hop, h⟩ := bind_eq_ok.mp h
  obtain ⟨lhs, hleft, h⟩ := bind_eq_ok.mp h
  obtain ⟨rhs, hright, h⟩ := bind_eq_ok.mp h
  cases h
  refine ⟨operator, lhs, rhs, ?_, hleft, hright, rfl⟩
  unfold BinaryOperator.compile at hop
  split at hop
  · cases hop
    assumption
  · cases hop

theorem Expr.lower_unary_eq_ok {pos : Position} {op : UnaryOperator} {operand : Expr}
    (h : (Expr.unary pos op operand).lower env scope priority = .ok form) :
    ∃ operator inner, operand.lower env scope 0 = .ok inner ∧
      form = (if PrefixOperator.priority < priority then
          .group (.before operator inner (env.groupAggressively || operand.isOperation))
        else .before operator inner (env.groupAggressively || operand.isOperation)) := by
  obtain ⟨operator, _, h⟩ := bind_eq_ok.mp h
  obtain ⟨inner, hoperand, h⟩ := bind_eq_ok.mp h
  cases h
  exact ⟨operator, inner, hoperand, rfl⟩

theorem Expr.lower_tuple_eq_ok {pos : Position} {items : List Expr}
    (h : (Expr.tuple pos items).lower env scope priority = .ok form) :
    ∃ forms, Expr.lowerAll env scope 0 items = .ok forms ∧ form = .sequence forms := by
  obtain ⟨forms, hitems, h⟩ := bind_eq_ok.mp h
  cases h
  exact ⟨forms, hitems, rfl⟩

end

end CallForm
