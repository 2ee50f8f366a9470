-- The laws of grouped arithmetic: however deep a term nests, and however few
-- parentheses its compiled text is written with, the text is worth what the
-- term is worth.
import CallForm.Proofs.ArithmeticGrammar
import CallForm.Lowering.Expr
import CallForm.Ir.Tags

namespace CallForm

/-! ## Terms as syntax trees -/

/-- The operator of a syntax tree that stands for an operator of a term. -/
def ArithmeticOperator.binary : ArithmeticOperator → BinaryOperator
  | .add => .add
  | .sub => .sub
  | .mul => .mult
  | .div => .div
  | .mod => .mod
  | .pow => .pow

/-- The operator of compiled text that stands for an operator of a term. -/
def ArithmeticOperator.compiled : ArithmeticOperator → InfixOperator
  | .add => .add
  | .sub => .sub
  | .mul => .mul
  | .div => .div
  | .mod => .mod
  | .pow => .pow

/-- A syntax tree mirrors a term, whatever places its parts come from. -/
inductive Mirrors : Arithmetic → Expr → Prop
  | number (n : UInt8) (pos : Position) :
      Mirrors (.number n) (.number pos (.int (Int64.ofNat n.toNat)))
  | negation {term : Arithmetic} {expr : Expr} (pos : Position) : Mirrors term expr →
      Mirrors (.negation term) (.unary pos .minus expr)
  | operation {left right : Arithmetic} {lhs rhs : Expr} (op : ArithmeticOperator)
      (pos : Position) : Mirrors left lhs → Mirrors right rhs →
      Mirrors (.operation left op right) (.binary pos lhs op.binary rhs)

/-! ## Operators -/

@[simp] theorem ArithmeticOperator.compile_binary (op : ArithmeticOperator) (line : UInt32) :
    op.binary.compile line = .ok op.compiled := by
  cases op <;> rfl

@[simp] theorem ArithmeticOperator.text_compiled (op : ArithmeticOperator) :
    op.compiled.text = op.symbol := by
  cases op <;> rfl

namespace Arithmetic

/-- An operation fits the slots up to the priority of its operator, if its operands fit theirs. -/
theorem Derives.operation {op : ArithmeticOperator} {left right : List ArithmeticToken}
    {a b : Option Float} (hl : Derives (.ofSlot op.compiled.leftSlot) left a)
    (hr : Derives (.ofSlot op.compiled.rightSlot) right b) :
    Derives (.ofSlot op.compiled.priority) (left ++ .operator op :: right) (op.combine a b) := by
  cases op with
  | add | sub => exact .sum rfl hl hr
  | mul | div | mod => exact .product rfl hl hr
  | pow => exact .power hl hr

/-! ## Compiled terms -/

/-- An expression compiles, in a place of some priority, to a text that the grammar derives there
with a value. -/
def CompilesTo (env : Environment) (scope : Scope) (priority : Nat) (expr : Expr)
    (value : Option Float) : Prop :=
  ∃ ir words, expr.lower env scope priority = .ok ir ∧ Spells ir.render.toList words ∧
    Derives (.ofSlot priority) words value

theorem Spells.render_group {ir : Ir} {words : List ArithmeticToken}
    (h : Spells ir.render.toList words) :
    Spells (Ir.group ir).render.toList (.opening :: (words ++ [.closing])) := by
  simpa [Ir.render, Fragment.group] using h.group

theorem Spells.render_between {lhs rhs : Ir} {left right : List ArithmeticToken}
    (hl : Spells lhs.render.toList left) (hr : Spells rhs.render.toList right)
    (op : ArithmeticOperator) :
    Spells (Ir.between lhs op.compiled rhs false).render.toList
      (left ++ .operator op :: right) := by
  simpa [Ir.render, Fragment.between] using hl.operation hr op

theorem Spells.render_before {ir : Ir} {words : List ArithmeticToken}
    (h : Spells ir.render.toList words) :
    Spells (Ir.before .neg ir false).render.toList (.operator .sub :: words) := by
  simpa [Ir.render, Fragment.before, PrefixOperator.text] using h.negation

theorem Spells.render_number (n : UInt8) :
    Spells (Ir.number (.int (Int64.ofNat n.toNat))).render.toList
      [.number (Nat.toDigits 10 n.toNat)] := by
  have small : (Int64.ofNat n.toNat).toInt = (n.toNat : Int) := by
    rw [Int64.toInt_ofNat_of_lt]
    have := n.toNat_lt
    omega
  have text : (Ir.number (.int (Int64.ofNat n.toNat))).render = n.toNat.repr := by
    simp only [Ir.render, Fragment.number, small]
    rfl
  rw [text]
  exact .number n.toNat

theorem Derives.digits (n : UInt8) :
    Derives .atom [.number (Nat.toDigits 10 n.toNat)] (some (Float.ofNat n.toNat)) := by
  have value := natOfDigits_toDigits n.toNat
  have small : natOfDigits (Nat.toDigits 10 n.toNat) ≤ Word.max32 := by
    have := n.toNat_lt
    rw [value, Word.max32]
    omega
  have := Derives.number small
  rwa [value] at this

/-- What fits some slot fits every slot inside parentheses. -/
theorem Derives.group_fits {slot : Nat} {words : List ArithmeticToken} {value : Option Float}
    (h : Derives (.ofSlot slot) words value) (other : Nat) :
    Derives (.ofSlot other) (.opening :: (words ++ [.closing])) value := by
  have lowest : Derives (.ofSlot 0) words value := h.fits (by omega)
  exact Derives.atom_fits (.group lowest) other

end Arithmetic

open Arithmetic

/-! ## The laws -/

variable (env : Environment) (scope : Scope)

theorem Mirrors.compilesTo_number (priority : Nat) (n : UInt8) (pos : Position) :
    CompilesTo env scope priority (.number pos (.int (Int64.ofNat n.toNat)))
      (Arithmetic.number n).value :=
  ⟨_, _, rfl, .render_number n, (Derives.digits n).atom_fits priority⟩

/-- The operand of a negation stands in parentheses, or it is a number. -/
theorem Mirrors.operand_is_grouped {term : Arithmetic} {expr : Expr} (h : Mirrors term expr)
    (compiles : CompilesTo env scope 0 expr term.value) (grouped : Bool) :
    ∃ ir words, expr.lower env scope 0 = .ok ir ∧
      Spells (Ir.before .neg ir (grouped || expr.isOperation)).render.toList
        (.operator .sub :: words) ∧ Derives .factor words term.value := by
  obtain ⟨ir, words, lowered, spells, derives⟩ := compiles
  by_cases parentheses : grouped || expr.isOperation
  · refine ⟨ir, .opening :: (words ++ [.closing]), lowered, ?_, ?_⟩
    · rw [parentheses]
      exact spells.render_group.render_before
    · exact derives.group_fits 3
  · cases h with
    | number n pos =>
      obtain ⟨ir, words, lowered, spells, derives⟩ := compilesTo_number env scope 3 n pos
      refine ⟨ir, words, lowered, ?_, derives⟩
      rw [Bool.eq_false_iff.mpr parentheses]
      exact spells.render_before
    | negation | operation => simp [Expr.isOperation] at parentheses

theorem Mirrors.compilesTo {term : Arithmetic} {expr : Expr} (h : Mirrors term expr)
    (priority : Nat) : CompilesTo env scope priority expr term.value := by
  induction h generalizing priority with
  | number n pos => exact compilesTo_number env scope priority n pos
  | @negation term expr pos h ih =>
    obtain ⟨ir, words, lowered, spells, derives⟩ :=
      h.operand_is_grouped env scope (ih 0) env.groupAggressively
    have factor : Derives (.ofSlot 3) (.operator .sub :: words) (term.value.map fun x => -x) :=
      .negation derives
    unfold CompilesTo
    rw [Expr.lower, lowered]
    by_cases tight : PrefixOperator.priority < priority
    · refine ⟨_, _, rfl, ?_, factor.group_fits priority⟩
      rw [if_pos tight]
      exact spells.render_group
    · refine ⟨_, _, rfl, ?_, factor.fits (Nat.le_of_not_lt tight)⟩
      rw [if_neg tight]
      exact spells
  | @operation left right lhs rhs op pos _ _ ihLeft ihRight =>
    obtain ⟨lir, before, hleft, hbefore, dleft⟩ := ihLeft op.compiled.leftSlot
    obtain ⟨rir, after, hright, hafter, dright⟩ := ihRight op.compiled.rightSlot
    have spells := hbefore.render_between hafter op
    have derives := dleft.operation dright
    unfold CompilesTo
    rw [Expr.lower, op.compile_binary, except_ok_bind, hleft, except_ok_bind, hright,
      except_ok_bind]
    by_cases parentheses : env.groupAggressively || decide (op.compiled.priority < priority)
    · refine ⟨_, _, rfl, ?_, derives.group_fits priority⟩
      rw [parentheses]
      exact spells.render_group
    · refine ⟨_, _, rfl, ?_, derives.fits ?_⟩
      · rw [Bool.eq_false_iff.mpr parentheses]
        exact spells
      · simp only [Bool.or_eq_true, decide_eq_true_eq, not_or] at parentheses
        exact Nat.le_of_not_lt parentheses.2

/-- A tree that mirrors an arithmetic term compiles in any place, and its text without the tags is
worth what the term is worth, or like the term is worth nothing. -/
theorem compiled_arithmetic_is_worth_what_it_says {term : Arithmetic} {expr : Expr}
    (h : Mirrors term expr) (priority : Nat) :
    ∃ ir, expr.lower env scope priority = .ok ir ∧
      evaluate (stripTags ir.render) = .ok term.value := by
  obtain ⟨ir, words, lowered, spells, derives⟩ := h.compilesTo env scope priority
  refine ⟨ir, lowered, ?_⟩
  have expression : Derives .sum words term.value := derives.fits (Nat.zero_le priority)
  have found : tokens ir.render.toList = .ok words := by
    have := spells.reads [] rfl
    rwa [List.append_nil, show tokens [] = .ok [] from rfl, Except.map, List.append_nil] at this
  unfold evaluate stripTags
  rw [dropTags_untagged spells.untagged, String.toList_ofList, found, except_ok_bind,
    expression.readExpr]
  rfl

/-- The term `2 ** -3 - (4 - 5)`. -/
def Arithmetic.nested : Arithmetic :=
  .operation (.operation (.number 2) .pow (.negation (.number 3))) .sub
    (.operation (.number 4) .sub (.number 5))

/-- The same as a syntax tree. -/
def Expr.nested : Expr :=
  let number (column : UInt32) (value : UInt8) : Expr :=
    .number ⟨1, column⟩ (.int (Int64.ofNat value.toNat))
  .binary ⟨1, 0⟩
    (.binary ⟨1, 0⟩ (number 0 2) .pow (.unary ⟨1, 5⟩ .minus (number 6 3))) .sub
    (.binary ⟨1, 11⟩ (number 11 4) .sub (number 15 5))

theorem a_power_and_a_difference_keep_their_operands :
    Mirrors Arithmetic.nested Expr.nested ∧
      ∃ ir, Expr.nested.lower { groupAggressively := false } .empty 0 = .ok ir ∧
        evaluate (stripTags ir.render) = .ok Arithmetic.nested.value := by
  have mirrors : Mirrors Arithmetic.nested Expr.nested :=
    .operation .sub _
      (.operation .pow _ (.number 2 _) (.negation _ (.number 3 _)))
      (.operation .sub _ (.number 4 _) (.number 5 _))
  exact ⟨mirrors, compiled_arithmetic_is_worth_what_it_says _ _ mirrors 0⟩

end CallForm
