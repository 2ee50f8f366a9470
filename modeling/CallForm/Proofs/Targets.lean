-- What a write to part of a value is told by: six places, each a literal or
-- an expression. Whether an index has such places depends on its shape
-- alone, and they are lowered in order between the base and the value.
import Mathlib.Data.List.Forall2
import CallForm.Proofs.Outcome
import CallForm.Lowering.Stmt

namespace CallForm

/-! ## The six places -/

/-- What stands in one of the six places: a literal, or an expression. -/
inductive Slot
  | zero | one | nil
  | part (value : Expr)

namespace Slot

/-- A bound, or what stands for an absent one. -/
def ofBound (absent : Slot) : Option Expr → Slot
  | none => absent
  | some bound => .part bound

/-- The compiled form of a place. -/
def lower (env : Environment) (scope : Scope) (priority : Nat) : Slot → Except LowerError Ir
  | .zero => .ok Ir.zero
  | .one => .ok Ir.one
  | .nil => .ok (Ir.bare Primitive.nil)
  | .part value => value.lower env scope priority

/-- A place has a compiled form. -/
def LowersTo (env : Environment) (scope : Scope) (priority : Nat) (slot : Slot) (form : Ir) :
    Prop :=
  slot.lower env scope priority = .ok form

/-- The expression in a place, if there is one. -/
def parts : Slot → List Expr
  | .part value => [value]
  | _ => []

@[simp] theorem parts_part (value : Expr) : (part value).parts = [value] := rfl

@[simp] theorem parts_zero : zero.parts = [] := rfl

@[simp] theorem parts_one : one.parts = [] := rfl

@[simp] theorem parts_nil : nil.parts = [] := rfl

@[simp] theorem parts_ofBound_zero (bound : Option Expr) :
    (ofBound zero bound).parts = bound.toList := by
  cases bound <;> rfl

@[simp] theorem parts_ofBound_nil (bound : Option Expr) :
    (ofBound nil bound).parts = bound.toList := by
  cases bound <;> rfl

end Slot

/-- The six places of an index that can be written to: one element, one element by row and
column, a span, or a block of spans. Nothing else can be written to. -/
def Index.slots? : Index → Option (List Slot)
  | .slice (.mk lower upper none _) =>
    some [.ofBound .zero lower, .ofBound .zero upper, .one, .zero, .zero, .zero]
  | .item (.tuple _ [row, column]) => some [.part row, .zero, .zero, .part column, .zero, .zero]
  | .item (.tuple ..) => none
  | .item value => some [.part value, .zero, .zero, .zero, .zero, .zero]
  | .dims [.slice (.mk rowLow rowHigh none _), .slice (.mk columnLow columnHigh none _)] =>
    some [.ofBound .zero rowLow, .ofBound .nil rowHigh, .one, .ofBound .zero columnLow,
      .ofBound .nil columnHigh, .one]
  | .slice _ | .dims _ => none

theorem Index.length_slots {index : Index} {slots : List Slot} (h : index.slots? = some slots) :
    slots.length = 6 := by
  unfold slots? at h
  split at h <;> cases h <;> rfl

section

variable (env : Environment) (scope : Scope) (priority : Nat)

theorem Expr.lowerBound_zero (bound : Option Expr) :
    Expr.lowerBound env scope priority Ir.zero bound =
      (Slot.ofBound .zero bound).lower env scope priority := by
  cases bound <;> simp [Expr.lowerBound, Slot.ofBound, Slot.lower]

theorem Expr.lowerBound_nil (bound : Option Expr) :
    Expr.lowerBound env scope priority (Ir.bare Primitive.nil) bound =
      (Slot.ofBound .nil bound).lower env scope priority := by
  cases bound <;> simp [Expr.lowerBound, Slot.ofBound, Slot.lower]

/-- An index is lowered by lowering its six places in order, and refused if it has none. -/
theorem Index.lowerTarget_eq (line : UInt32) (index : Index) :
    index.lowerTarget env scope priority line =
      match index.slots? with
      | some slots => slots.mapM (Slot.lower env scope priority)
      | none => .error (.unsupportedSlicing line) := by
  unfold Index.lowerTarget Index.slots?
  split <;>
    simp [Expr.lowerBound_zero, Expr.lowerBound_nil, Slot.lower, pure, Except.pure, bind_assoc]

/-- An assignment to a subscript leaves the context as it is. -/
theorem Stmt.runOn_lower_subscript (allowReturn : Bool) (pos place : Position) (base : Expr)
    (index : Index) (value : Expr) (ctx : Context) :
    ((Stmt.assign pos (.subscript place base index) value).lower allowReturn).runOn ctx =
      (Expr.lowerSet ctx.env ctx.scope ctx.priority pos.line base index value, ctx) := by
  rw [Stmt.lower]
  rfl

/-- A write is compiled if its index has six places and they and the base and the value are. -/
theorem Expr.lowerSet_eq_ok {line : UInt32} {base : Expr} {index : Index} {value : Expr}
    {form : Ir} (h : Expr.lowerSet env scope priority line base index value = .ok form) :
    ∃ slots first selector last, index.slots? = some slots ∧
      base.lower env scope priority = .ok first ∧
      slots.mapM (Slot.lower env scope priority) = .ok selector ∧
      value.lower env scope priority = .ok last ∧
      form = Ir.bareCall Primitive.set (first :: selector ++ [last]) := by
  obtain ⟨first, hbase, h⟩ := bind_eq_ok.mp h
  obtain ⟨selector, hindex, h⟩ := bind_eq_ok.mp h
  obtain ⟨last, hvalue, h⟩ := bind_eq_ok.mp h
  rw [Index.lowerTarget_eq] at hindex
  cases found : index.slots? with
  | none =>
    rw [found] at hindex
    cases hindex
  | some slots =>
    rw [found] at hindex
    cases h
    exact ⟨slots, first, selector, last, rfl, hbase, hindex, hvalue, rfl⟩

end

theorem mapM_eq_ok_iff {ε α β : Type} {next : α → Except ε β} {items : List α} {values : List β} :
    items.mapM next = .ok values ↔
      List.Forall₂ (fun item value => next item = .ok value) items values := by
  induction items generalizing values with
  | nil => cases values <;> simp [pure, Except.pure]
  | cons item rest ih =>
    rw [List.mapM_cons]
    constructor
    · intro h
      obtain ⟨first, hfirst, h⟩ := bind_eq_ok.mp h
      obtain ⟨others, hothers, h⟩ := bind_eq_ok.mp h
      cases h
      exact .cons hfirst (ih.mp hothers)
    · rintro (_ | ⟨hfirst, hothers⟩)
      rw [hfirst, ih.mpr hothers]
      rfl

end CallForm
