-- What lowering does to its context. A node makes moves one after another:
-- it visits expressions, binds names, enters functions, and stops at the
-- first move that fails. The context behind it, also behind a failure, is
-- what the moves made until then have reached.
import CallForm.Proofs.Dimensions

namespace CallForm

/-! ## Moves -/

/-- One thing that lowering does next: it visits expressions, which only matters if one of them is
at fault, it binds a name, it enters a function, or it gives up. -/
inductive Move
  | visit (walk : (Expr → String → Bool) → List (Place × Visit))
  | bind (name : String)
  | enter (definition : FunctionDef)
  | refuse (cause : LowerError)

/-- The context with more names bound. -/
def Context.binding (ctx : Context) (names : List String) : Context :=
  { ctx with scope := ctx.scope.bindAll names }

/-- The context in which the body of a function is lowered. -/
def Context.entering (ctx : Context) (definition : FunctionDef) : Context :=
  { ctx with inFunction := true, scope := definition.start }

/-- Makes a move in a context: the context that it reaches, or why it fails. -/
def Move.run (ctx : Context) : Move → Except LowerError Context
  | .visit walk =>
    match faultsIn ctx.env ctx.scope (walk ctx.env.enters) with
    | [] => .ok ctx
    | cause :: _ => .error cause
  | .bind name => .ok (ctx.binding [name])
  | .enter definition =>
    if ctx.inFunction then .error (.unsupportedNode "FunctionDef" definition.pos)
    else .ok (ctx.entering definition)
  | .refuse cause => .error cause

/-- Makes moves up to the first one that fails: why it failed, if there is one, and the context
reached. -/
def Context.follow (ctx : Context) : List Move → Option LowerError × Context
  | [] => (none, ctx)
  | move :: rest =>
    match move.run ctx with
    | .ok after => after.follow rest
    | .error cause => (some cause, ctx)

/-- The name that a move binds. -/
def Move.bound? : Move → Option String
  | .bind name => some name
  | _ => none

/-- The names that moves bind, in order. -/
def boundBy (moves : List Move) : List String := moves.filterMap Move.bound?

/-! ### The moves of statements -/

/-- The fault of a statement itself, as a move. -/
def Stmt.refusal (last : Bool) (stmt : Stmt) : List Move := (stmt.fault? last).toList.map .refuse

/-- The visit of one expression. -/
def Expr.visiting (value : Expr) : Move := .visit fun enters => value.visits enters .first

/-- The moves of `target = value`. A name is bound in front of the value. -/
def assignMoves (pos : Position) (target value : Expr) : List Move :=
  match target with
  | .name _ id => [.bind id, value.visiting]
  | _ => [.visit fun enters => assignVisits enters [] pos target value]

mutual

/-- The moves of a statement. `last` says that nothing of the function runs after it. -/
def Stmt.moves (last : Bool) : Stmt → List Move
  | .function _ definition => definition.moves
  | .assign pos target value =>
    Stmt.refusal last (.assign pos target value) ++ assignMoves pos target value
  | .augment pos target op value =>
    Stmt.refusal last (.augment pos target op value) ++
      [.visit fun enters => augmentVisits enters [] target value]
  | .branch _ test body orelse =>
    [test.visiting] ++ (Stmt.movesIn last body ++ Stmt.movesIn last orelse)
  | .whileLoop pos test body orelse =>
    Stmt.refusal last (.whileLoop pos test body orelse) ++
      ([test.visiting] ++ Stmt.movesIn false body)
  | .forLoop pos target iter body orelse =>
    Stmt.refusal last (.forLoop pos target iter body orelse) ++
      ([target.visiting] ++ (Stmt.movesIn false body ++ [iter.visiting]))
  | .ret pos value =>
    Stmt.refusal last (.ret pos value) ++ [.visit fun enters => Expr.visitsOf enters .first value]
  | .expr pos values =>
    Stmt.refusal last (.expr pos values) ++
      [.visit fun enters => Expr.visitsAll enters .first values]
  | .unknown pos kind => Stmt.refusal last (.unknown pos kind)

/-- The moves of statements, one after another. -/
def Stmt.movesIn (last : Bool) : List Stmt → List Move
  | [] => []
  | stmt :: rest => stmt.moves (last && rest.isEmpty) ++ Stmt.movesIn last rest

/-- The moves of a function definition. -/
def FunctionDef.moves : FunctionDef → List Move
  | .mk name params body pos => .enter (.mk name params body pos) :: Stmt.movesIn true body

end

/-- The moves of a node. -/
def Node.moves (allowReturn : Bool) : Node → List Move
  | .program value =>
    match value.body with
    | [] => [.refuse .emptyModule]
    | first :: _ => first.moves false
  | .function value => value.moves
  | .stmt value => value.moves allowReturn
  | .expr value => [value.visiting]
  | .slice value => [.visit fun enters => value.visits enters .first]
  | .dims parts pos =>
    [.visit fun enters =>
      (.first, .selector pos (.dims parts)) :: Dim.visitsAll enters .first parts]

/-! ## Following moves -/

namespace Context

theorem follow_append (moves more : List Move) (ctx : Context) :
    ctx.follow (moves ++ more) =
      match ctx.follow moves with
      | (none, after) => after.follow more
      | (some cause, after) => (some cause, after) := by
  induction moves generalizing ctx with
  | nil => rfl
  | cons move rest ih =>
    rw [List.cons_append, follow, follow]
    cases move.run ctx with
    | ok after => exact ih after
    | error cause => rfl

/-- A move changes neither the environment nor the priority. -/
theorem env_priority_run {ctx after : Context} {move : Move} (h : move.run ctx = .ok after) :
    after.env = ctx.env ∧ after.priority = ctx.priority := by
  cases move with
  | visit walk =>
    rw [Move.run] at h
    split at h
    · cases h
      exact ⟨rfl, rfl⟩
    · cases h
  | bind name =>
    cases h
    exact ⟨rfl, rfl⟩
  | enter definition =>
    rw [Move.run] at h
    split at h
    · cases h
    · cases h
      exact ⟨rfl, rfl⟩
  | refuse cause => cases h

/-- Moves change neither the environment nor the priority, whether one of them fails or not. -/
theorem env_priority_follow (moves : List Move) (ctx : Context) :
    (ctx.follow moves).2.env = ctx.env ∧ (ctx.follow moves).2.priority = ctx.priority := by
  induction moves generalizing ctx with
  | nil => exact ⟨rfl, rfl⟩
  | cons move rest ih =>
    unfold follow
    cases made : move.run ctx with
    | error cause => exact ⟨rfl, rfl⟩
    | ok after =>
      obtain ⟨env, priority⟩ := env_priority_run made
      obtain ⟨env', priority'⟩ := ih after
      exact ⟨env'.trans env, priority'.trans priority⟩

end Context

/-! ## Lowering makes the moves -/

namespace Lowering

variable {α β : Type}

/-- A step makes moves: from any context it gets where they get. It fails with the move that fails,
and gives a value if none does. -/
def Follows (step : Lowering α) (moves : List Move) : Prop :=
  ∀ ctx, (step.runOn ctx).2 = (ctx.follow moves).2 ∧
    Judged (ctx.follow moves).1.toList (step.runOn ctx).1

theorem follows_pure (value : α) : (pure value : Lowering α).Follows [] :=
  fun _ => ⟨rfl, .ok value⟩

theorem follows_fail (cause : LowerError) (rest : List Move) :
    (fail cause : Lowering α).Follows (.refuse cause :: rest) :=
  fun _ => ⟨rfl, rfl⟩

theorem follows_assign (name : String) : (assign name).Follows [.bind name] :=
  fun _ => ⟨rfl, .ok _⟩

theorem follows_enter (definition : FunctionDef) :
    (enter definition).Follows [.enter definition] := by
  intro ctx
  rw [Context.follow, Move.run, runOn, enter]
  cases ctx.inFunction with
  | true => exact ⟨rfl, rfl⟩
  | false => exact ⟨rfl, .ok ()⟩

theorem follows_reading {read : Context → Except LowerError α}
    {walk : (Expr → String → Bool) → List (Place × Visit)}
    (h : ∀ ctx, Judged (faultsIn ctx.env ctx.scope (walk ctx.env.enters)) (read ctx)) :
    (reading read).Follows [.visit walk] := by
  intro ctx
  have judged := h ctx
  rw [Context.follow, Move.run, runOn, reading]
  cases found : faultsIn ctx.env ctx.scope (walk ctx.env.enters) with
  | nil =>
    rw [found] at judged
    exact ⟨rfl, judged⟩
  | cons cause rest =>
    rw [found] at judged
    exact ⟨rfl, judged⟩

theorem follows_expr (value : Expr) : (expr value).Follows [value.visiting] :=
  follows_reading fun ctx => value.judged_lower ctx.env ctx.scope .first ctx.priority

theorem Follows.bind {step : Lowering α} {next : α → Lowering β} {moves later : List Move}
    (h : step.Follows moves) (hnext : ∀ value, (next value).Follows later) :
    (step >>= next).Follows (moves ++ later) := by
  intro ctx
  obtain ⟨reached, judged⟩ := h ctx
  rw [runOn_bind, Context.follow_append]
  rcases run : step.runOn ctx with ⟨found, after⟩
  rcases moved : ctx.follow moves with ⟨failure, after'⟩
  rw [run, moved] at reached judged
  cases reached
  cases failure with
  | none =>
    obtain ⟨value, rfl⟩ := judged
    exact hnext value after
  | some cause =>
    cases judged
    exact ⟨rfl, rfl⟩

theorem Follows.done {step : Lowering α} {moves : List Move} (h : step.Follows moves)
    (made : α → β) : (step >>= fun value => pure (made value)).Follows moves := by
  have bound := h.bind fun value => follows_pure (made value)
  rwa [List.append_nil] at bound

end Lowering

theorem follows_lowerAssign (pos : Position) (target value : Expr) (last : Bool) :
    (lowerAssign pos target value).Follows
      (Stmt.refusal last (.assign pos target value) ++ assignMoves pos target value) := by
  cases target with
  | name place id =>
    exact (Lowering.follows_assign id).bind fun binding => (Lowering.follows_expr value).done _
  | subscript place base index =>
    apply Lowering.follows_reading
    intro ctx
    rw [faultsIn_assignVisits]
    exact Expr.judged_set ctx.env ctx.scope .first ctx.priority pos.line base index value
  | _ => exact Lowering.follows_fail _ _

theorem follows_lowerAugment (pos : Position) (target : Expr) (op : BinaryOperator) (value : Expr)
    (last : Bool) :
    (lowerAugment pos target op value).Follows
      (Stmt.refusal last (.augment pos target op value) ++
        [.visit fun enters => augmentVisits enters [] target value]) := by
  cases op with
  | add =>
    cases target with
    | name place id =>
      apply Lowering.follows_reading
      intro ctx
      exact (value.judged_lower ctx.env ctx.scope .first InfixOperator.add.rightSlot).done _
    | _ => exact Lowering.follows_fail _ _
  | _ => exact Lowering.follows_fail _ _

theorem follows_lowerReturn (pos : Position) (value : Option Expr) (last : Bool) :
    (lowerReturn pos value last).Follows
      (Stmt.refusal last (.ret pos value) ++
        [.visit fun enters => Expr.visitsOf enters .first value]) := by
  cases last with
  | false => exact Lowering.follows_fail _ _
  | true =>
    cases value with
    | none => exact Lowering.follows_reading fun _ => .ok _
    | some value => exact Lowering.follows_expr value

theorem follows_lowerExprStmt (pos : Position) (values : List Expr) (last : Bool) :
    (lowerExprStmt pos values).Follows
      (Stmt.refusal last (.expr pos values) ++
        [.visit fun enters => Expr.visitsAll enters .first values]) := by
  match values with
  | [value] =>
    apply (Lowering.follows_reading _).done
    intro ctx
    rw [Expr.visitsAll, Expr.visitsAll, List.append_nil]
    exact value.judged_lower ctx.env ctx.scope .first ctx.priority
  | [] | _ :: _ :: _ => exact Lowering.follows_fail _ _

mutual

/-- Lowering a statement makes its moves. -/
theorem Stmt.follows_lower (last : Bool) : ∀ stmt : Stmt,
    (stmt.lower last).Follows (stmt.moves last)
  | .function _ definition => by
    rw [Stmt.lower, Stmt.moves]
    exact definition.follows_lower
  | .assign pos target value => by
    rw [Stmt.lower, Stmt.moves]
    exact follows_lowerAssign pos target value last
  | .augment pos target op value => by
    rw [Stmt.lower, Stmt.moves]
    exact follows_lowerAugment pos target op value last
  | .branch pos test body orelse => by
    rw [Stmt.lower, Stmt.moves]
    apply (Lowering.follows_expr test).bind
    intro test'
    apply (Stmt.follows_lowerAll last body).bind
    intro first
    exact (Stmt.follows_lowerAll last orelse).done _
  | .whileLoop pos test body [] => by
    rw [Stmt.lower, Stmt.moves]
    apply (Lowering.follows_expr test).bind
    intro test'
    exact (Stmt.follows_lowerAll false body).done _
  | .whileLoop _ _ _ (_ :: _) => by
    rw [Stmt.moves]
    exact Lowering.follows_fail _ _
  | .forLoop pos target iter body [] => by
    rw [Stmt.lower, Stmt.moves]
    apply (Lowering.follows_expr target).bind
    intro item
    apply (Stmt.follows_lowerAll false body).bind
    intro inner
    exact (Lowering.follows_expr iter).done _
  | .forLoop _ _ _ _ (_ :: _) => by
    rw [Stmt.moves]
    exact Lowering.follows_fail _ _
  | .ret pos value => by
    rw [Stmt.lower, Stmt.moves]
    exact follows_lowerReturn pos value last
  | .expr pos values => by
    rw [Stmt.lower, Stmt.moves]
    exact follows_lowerExprStmt pos values last
  | .unknown pos kind => by
    rw [Stmt.moves]
    exact Lowering.follows_fail _ _

theorem Stmt.follows_lowerAll (last : Bool) : ∀ stmts : List Stmt,
    (Stmt.lowerAll last stmts).Follows (Stmt.movesIn last stmts)
  | [] => Lowering.follows_pure []
  | stmt :: rest => by
    rw [Stmt.lowerAll, Stmt.movesIn]
    apply (stmt.follows_lower _).bind
    intro first
    exact (Stmt.follows_lowerAll last rest).done _

theorem FunctionDef.follows_lower : ∀ definition : FunctionDef,
    definition.lower.Follows definition.moves
  | .mk name params body pos => by
    rw [FunctionDef.lower, FunctionDef.moves]
    apply (Lowering.follows_enter _).bind
    intro entered
    exact (Stmt.follows_lowerAll true body).done _

end

theorem Dim.judged_lowerPair (env : Environment) (scope : Scope) (priority : Nat) (pos : Position)
    (parts : List Dim) :
    Judged (faultsIn env scope
        ((.first, .selector pos (.dims parts)) :: Dim.visitsAll env.enters .first parts))
      (Dim.lowerPair env scope priority pos parts) := by
  rcases parts with _ | ⟨first, _ | ⟨second, _ | ⟨third, rest⟩⟩⟩
  · rfl
  · rfl
  · rw [faultsIn_cons, Dim.lowerPair, Dim.visitsAll, Dim.visitsAll, Dim.visitsAll, List.append_nil,
      faultsIn_append]
    apply (first.judged_lower env scope .first priority).bind
    intro first'
    exact (second.judged_lower env scope .first priority).done _
  · rfl

/-- Lowering a node makes its moves. -/
theorem Node.follows_lower (allow : Bool) (node : Node) :
    (node.lower allow).Follows (node.moves allow) := by
  cases node with
  | program value =>
    obtain ⟨body, imports⟩ := value
    cases body with
    | nil => exact Lowering.follows_fail _ _
    | cons first rest => exact first.follows_lower false
  | function value => exact value.follows_lower
  | stmt value => exact value.follows_lower allow
  | expr value => exact Lowering.follows_expr value
  | slice value =>
    exact Lowering.follows_reading fun ctx =>
      value.judged_lower ctx.env ctx.scope .first ctx.priority
  | dims parts pos =>
    exact Lowering.follows_reading fun ctx =>
      Dim.judged_lowerPair ctx.env ctx.scope ctx.priority pos parts

end CallForm
