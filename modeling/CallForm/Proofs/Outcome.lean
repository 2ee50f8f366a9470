-- What a step of lowering makes of a context when nothing fails, and the
-- first failure otherwise. A step built with `do` has the outcome of its
-- parts in a row, so laws about statements need not open the monad.
import CallForm.Lowering.Node

namespace CallForm

/-! ## Results in a row -/

@[simp] theorem except_ok_bind {ε α β : Type} (value : α) (next : α → Except ε β) :
    (Except.ok value >>= next) = next value := rfl

@[simp] theorem except_error_bind {ε α β : Type} (cause : ε) (next : α → Except ε β) :
    (Except.error cause >>= next) = .error cause := rfl

theorem bind_eq_ok {ε α β : Type} {first : Except ε α} {next : α → Except ε β} {value : β} :
    (first >>= next) = .ok value ↔ ∃ found, first = .ok found ∧ next found = .ok value := by
  cases first <;> simp

theorem map_eq_ok {ε α β : Type} {f : α → β} {found : Except ε α} {value : β} :
    found.map f = .ok value ↔ ∃ inner, found = .ok inner ∧ f inner = value := by
  cases found <;> simp [Except.map]

/-- Two results are alike in what they go on with if they are alike, and it goes on alike. -/
theorem bind_congr_ok {ε α β : Type} {first second : Except ε α} {next next' : α → Except ε β}
    (same : first = second) (later : ∀ value, second = .ok value → next value = next' value) :
    first >>= next = second >>= next' := by
  subst same
  cases first with
  | error cause => rfl
  | ok value => exact later value rfl

/-- Two results that fail for one reason, or give related values. -/
inductive Agree {ε α β : Type} (related : α → β → Prop) : Except ε α → Except ε β → Prop
  | failed (cause : ε) : Agree related (.error cause) (.error cause)
  | gave {a : α} {b : β} : related a b → Agree related (.ok a) (.ok b)

theorem Agree.bind {ε α β γ δ : Type} {related : α → β → Prop} {after : γ → δ → Prop}
    {first : Except ε α} {second : Except ε β} {next : α → Except ε γ} {next' : β → Except ε δ}
    (h : Agree related first second)
    (hnext : ∀ a b, related a b → Agree after (next a) (next' b)) :
    Agree after (first >>= next) (second >>= next') := by
  cases h with
  | failed cause => exact .failed cause
  | gave hab => exact hnext _ _ hab

/-- What one result is made into can be told of the other. -/
theorem Agree.made_right {ε α β γ : Type} {related : α → β → Prop} {after : α → γ → Prop}
    {first : Except ε α} {second : Except ε β} {made : β → γ} (h : Agree related first second)
    (hmade : ∀ a b, related a b → after a (made b)) :
    Agree after first (second >>= fun b => .ok (made b)) := by
  cases h with
  | failed cause => exact .failed cause
  | gave hab => exact .gave (hmade _ _ hab)

theorem Agree.made_left {ε α β γ : Type} {related : α → β → Prop} {after : γ → β → Prop}
    {first : Except ε α} {second : Except ε β} {made : α → γ} (h : Agree related first second)
    (hmade : ∀ a b, related a b → after (made a) b) :
    Agree after (first >>= fun a => .ok (made a)) second := by
  cases h with
  | failed cause => exact .failed cause
  | gave hab => exact .gave (hmade _ _ hab)

theorem Agree.eq_error {ε α β : Type} {related : α → β → Prop} {first : Except ε α} {cause : ε}
    (h : Agree related first (.error cause : Except ε β)) : first = .error cause := by
  cases h
  rfl

theorem Agree.eq_ok {ε α β : Type} {related : α → β → Prop} {first : Except ε α} {b : β}
    (h : Agree related first (.ok b : Except ε β)) : ∃ a, first = .ok a ∧ related a b := by
  cases h with
  | gave hab => exact ⟨_, rfl, hab⟩

/-! ## The outcome of a step -/

namespace Lowering

variable {α β : Type}

/-- How a step goes on from a context: its value and the context after it, or why it failed. -/
def outcome (step : Lowering α) (ctx : Context) : Except LowerError (α × Context) :=
  match step.runOn ctx with
  | (.ok value, after) => .ok (value, after)
  | (.error cause, _) => .error cause

theorem runOn_bind (step : Lowering α) (next : α → Lowering β) (ctx : Context) :
    (step >>= next).runOn ctx =
      match step.runOn ctx with
      | (.ok value, after) => (next value).runOn after
      | (.error cause, after) => (.error cause, after) := by
  simp only [runOn, bind, ExceptT.bind, ExceptT.mk, StateT.bind]
  generalize step ctx = found
  obtain ⟨_ | _, _⟩ := found <;> rfl

@[simp] theorem outcome_bind (step : Lowering α) (next : α → Lowering β) (ctx : Context) :
    (step >>= next).outcome ctx =
      step.outcome ctx >>= fun found => (next found.1).outcome found.2 := by
  unfold outcome
  rw [runOn_bind]
  rcases step.runOn ctx with ⟨_ | _, _⟩ <;> rfl

@[simp] theorem outcome_pure (value : α) (ctx : Context) :
    (pure value : Lowering α).outcome ctx = .ok (value, ctx) := rfl

@[simp] theorem outcome_reading (read : Context → Except LowerError α) (ctx : Context) :
    (reading read).outcome ctx = read ctx >>= fun value => .ok (value, ctx) := by
  unfold outcome runOn reading
  cases read ctx <;> rfl

@[simp] theorem outcome_expr (value : Expr) (ctx : Context) :
    (expr value).outcome ctx =
      value.lower ctx.env ctx.scope ctx.priority >>= fun ir => .ok (ir, ctx) :=
  outcome_reading _ ctx

@[simp] theorem outcome_assign (name : String) (ctx : Context) :
    (assign name).outcome ctx =
      .ok (ctx.scope.bindingOf name, { ctx with scope := ctx.scope.bind name }) := rfl

theorem outcome_enter_nested (definition : FunctionDef) (ctx : Context)
    (h : ctx.inFunction = true) :
    (enter definition).outcome ctx =
      .error (.unsupportedNode "FunctionDef" definition.pos) := by
  simp [outcome, runOn, enter, h]

theorem outcome_enter_first (definition : FunctionDef) (ctx : Context)
    (h : ctx.inFunction = false) :
    (enter definition).outcome ctx =
      .ok ((), { ctx with
        inFunction := true
        scope := Scope.ofParams (definition.params.map (·.name)) }) := by
  simp [outcome, runOn, enter, h]

end Lowering

/-! ## The outcome of a function -/

/-- The context in which the body of a function is lowered. -/
def FunctionDef.bodyContext (env : Environment) (definition : FunctionDef) : Context where
  env := env
  scope := Scope.ofParams (definition.params.map (·.name))
  inFunction := true

/-- The compiled form of a function around the compiled forms of its statements. -/
def FunctionDef.defineOf (definition : FunctionDef) (body : List Ir) : Ir :=
  Ir.taggedCall definition.pos Primitive.define
    (Ir.tagged definition.pos definition.name ::
      definition.params.map (fun param => Ir.tagged param.pos param.name) ++
        [blockOf definition.pos body])

/-- A function inside a function is refused. -/
theorem FunctionDef.outcome_lower_nested (definition : FunctionDef) (ctx : Context)
    (h : ctx.inFunction = true) :
    definition.lower.outcome ctx = .error (.unsupportedNode "FunctionDef" definition.pos) := by
  cases definition
  rw [FunctionDef.lower, Lowering.outcome_bind, Lowering.outcome_enter_nested _ _ h]
  rfl

theorem FunctionDef.compile_eq_outcome (env : Environment) (definition : FunctionDef) :
    definition.compile env =
      (Stmt.lowerAll true definition.body).outcome (definition.bodyContext env) >>= fun found =>
        .ok (definition.defineOf found.1) := by
  have projected : definition.compile env =
      definition.lower.outcome { env } >>= fun found => .ok found.1 := by
    unfold compile Lowering.outcome
    rcases definition.lower.runOn { env } with ⟨_ | _, _⟩ <;> rfl
  rw [projected]
  obtain ⟨name, params, body, pos⟩ := definition
  rw [FunctionDef.lower, Lowering.outcome_bind, Lowering.outcome_enter_first _ _ rfl]
  simp only [except_ok_bind, Lowering.outcome_bind, Lowering.outcome_pure, bind_assoc]
  rfl

end CallForm
