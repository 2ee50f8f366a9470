-- The statements of a function body, without the monad. The only trace
-- that a statement leaves behind are the names it assigns, so its compiled
-- form depends on the environment and the scope alone, and each kind of
-- statement has one equation.
import CallForm.Proofs.Outcome

namespace CallForm

/-! ## Assignments to names -/

/-- An assignment to a name: where the statement stands, where the name stands, and the name. -/
structure NameAssignment where
  pos : Position
  place : Position
  name : String
deriving Repr, DecidableEq

mutual

/-- The assignments to names in a statement, in source order. -/
def Stmt.assignments : Stmt → List NameAssignment
  | .assign pos (.name place id) _ => [⟨pos, place, id⟩]
  | .branch _ _ body orelse => Stmt.assignmentsIn body ++ Stmt.assignmentsIn orelse
  | .whileLoop _ _ body _ => Stmt.assignmentsIn body
  | .forLoop _ _ _ body _ => Stmt.assignmentsIn body
  | _ => []

/-- The assignments to names in statements, in source order. -/
def Stmt.assignmentsIn : List Stmt → List NameAssignment
  | [] => []
  | stmt :: rest => stmt.assignments ++ Stmt.assignmentsIn rest

end

/-- The names that a statement assigns, in source order. -/
def Stmt.assigned (stmt : Stmt) : List String := stmt.assignments.map (·.name)

/-- The names that statements assign, in source order. -/
def Stmt.assignedIn (stmts : List Stmt) : List String := (Stmt.assignmentsIn stmts).map (·.name)

namespace Scope

/-- Binds names one after another. -/
def bindAll (scope : Scope) (names : List String) : Scope := names.foldl bind scope

@[simp] theorem bindAll_nil (scope : Scope) : scope.bindAll [] = scope := rfl

@[simp] theorem bindAll_cons (scope : Scope) (name : String) (names : List String) :
    scope.bindAll (name :: names) = (scope.bind name).bindAll names := rfl

@[simp] theorem bindAll_bindAll (scope : Scope) (names more : List String) :
    (scope.bindAll names).bindAll more = scope.bindAll (names ++ more) := by
  simp [bindAll]

theorem isBound_bindAll (scope : Scope) (names : List String) (name : String) :
    (scope.bindAll names).isBound name = (decide (name ∈ names) || scope.isBound name) := by
  induction names generalizing scope with
  | nil => simp
  | cons first rest ih =>
    rw [bindAll_cons, ih, isBound_bind]
    by_cases same : name = first <;> by_cases later : name ∈ rest <;> simp [same, later]

end Scope

/-! ## Statements without a body -/

/-- A place inside a function body: no operator is around it. -/
def Context.inBody (env : Environment) (scope : Scope) : Context where
  env := env
  scope := scope
  inFunction := true

section

variable (env : Environment) (scope : Scope)

/-- The compiled form of `target = value`. The name is bound before its value is lowered. -/
def assignForm (pos : Position) (target value : Expr) : Except LowerError Ir :=
  match target with
  | .name place id => do
    let value ← value.lower env (scope.bind id) 0
    .ok (Ir.taggedCall pos (scope.bindingOf id).primitive [Ir.tagged place id, value])
  | .subscript _ base index => Expr.lowerSet env scope 0 pos.line base index value
  | _ => .error (.unsupportedSlicing pos.line)

/-- The compiled form of `target op= value`. -/
def augmentForm (pos : Position) (target : Expr) (op : BinaryOperator) (value : Expr) :
    Except LowerError Ir :=
  if op = .add then
    match target with
    | .name place id => do
      let name := Ir.tagged place id
      let value ← value.lower env scope InfixOperator.add.rightSlot
      .ok (Ir.taggedCall pos Primitive.store
        [name, .between name .add value env.groupAggressively])
    | _ => .error (.unsupportedSlicing pos.line)
  else .error (.unsupportedOperator .augmented (op.text ++ "=") pos.line)

/-- The compiled form of a `return`, where it is allowed. -/
def returnForm (pos : Position) (value : Option Expr) (allowed : Bool) : Except LowerError Ir :=
  if allowed then
    match value with
    | some value => value.lower env scope 0
    | none => .ok (Ir.tagged pos Primitive.nil)
  else .error (.misplacedReturn pos.line)

/-- The compiled form of an expression that stands as a statement. -/
def exprForm (pos : Position) (values : List Expr) : Except LowerError Ir :=
  match values with
  | [value] => do
    let value ← value.lower env scope 0
    .ok (.group value)
  | _ => .error (.malformedExpression values.length pos.line)

theorem outcome_lowerAssign (pos : Position) (target value : Expr) :
    (lowerAssign pos target value).outcome (.inBody env scope) =
      assignForm env scope pos target value >>= fun ir =>
        .ok (ir, .inBody env (scope.bindAll (Stmt.assign pos target value).assigned)) := by
  unfold lowerAssign assignForm
  cases target with
  | name place id =>
    simp only [Lowering.outcome_bind, Lowering.outcome_assign, Lowering.outcome_expr,
      except_ok_bind, bind_assoc]
    rfl
  | subscript place base index =>
    rw [Lowering.outcome_reading]
    rfl
  | _ => rfl

theorem outcome_lowerAugment (pos : Position) (target : Expr) (op : BinaryOperator)
    (value : Expr) :
    (lowerAugment pos target op value).outcome (.inBody env scope) =
      augmentForm env scope pos target op value >>= fun ir => .ok (ir, .inBody env scope) := by
  unfold lowerAugment augmentForm
  split
  · cases target with
    | name place id => simp [Context.inBody, InfixOperator.priority]
    | _ => rfl
  · rfl

theorem outcome_lowerReturn (pos : Position) (value : Option Expr) (allowed : Bool) :
    (lowerReturn pos value allowed).outcome (.inBody env scope) =
      returnForm env scope pos value allowed >>= fun ir => .ok (ir, .inBody env scope) := by
  unfold lowerReturn returnForm
  cases allowed with
  | false => rfl
  | true =>
    cases value with
    | none => rfl
    | some value => exact Lowering.outcome_expr value _

theorem outcome_lowerExprStmt (pos : Position) (values : List Expr) :
    (lowerExprStmt pos values).outcome (.inBody env scope) =
      exprForm env scope pos values >>= fun ir => .ok (ir, .inBody env scope) := by
  match values with
  | [value] =>
    simp only [lowerExprStmt, exprForm, Lowering.outcome_bind, Lowering.outcome_expr,
      except_ok_bind, bind_assoc]
    rfl
  | [] | _ :: _ :: _ => rfl

end

/-! ## What a statement leaves behind -/

mutual

/-- A statement of a body leaves behind what it assigns and nothing else. -/
theorem Stmt.context_after (env : Environment) (allow : Bool) :
    ∀ (stmt : Stmt) (scope : Scope) (ir : Ir) (after : Context),
      (stmt.lower allow).outcome (.inBody env scope) = .ok (ir, after) →
        after = .inBody env (scope.bindAll stmt.assigned)
  | .function _ definition, scope, ir, after, h => by
    rw [Stmt.lower, definition.outcome_lower_nested _ rfl] at h
    cases h
  | .assign pos target value, scope, ir, after, h => by
    rw [Stmt.lower, outcome_lowerAssign] at h
    obtain ⟨_, _, h⟩ := bind_eq_ok.mp h
    cases h
    rfl
  | .augment pos target op value, scope, ir, after, h => by
    rw [Stmt.lower, outcome_lowerAugment] at h
    obtain ⟨_, _, h⟩ := bind_eq_ok.mp h
    cases h
    rfl
  | .branch pos test body orelse, scope, ir, after, h => by
    simp only [Stmt.lower, Lowering.outcome_bind, Lowering.outcome_expr, bind_assoc,
      except_ok_bind] at h
    obtain ⟨_, _, h⟩ := bind_eq_ok.mp h
    obtain ⟨⟨_, between⟩, hbody, h⟩ := bind_eq_ok.mp h
    obtain ⟨⟨_, last⟩, horelse, h⟩ := bind_eq_ok.mp h
    cases Stmt.context_afterAll env allow body _ _ _ hbody
    cases Stmt.context_afterAll env allow orelse _ _ _ horelse
    cases h
    simp [Stmt.assigned, Stmt.assignedIn, Stmt.assignments]
  | .whileLoop pos test body orelse, scope, ir, after, h => by
    cases orelse with
    | cons => cases h
    | nil =>
      simp only [Stmt.lower, Lowering.outcome_bind, Lowering.outcome_expr, bind_assoc,
        except_ok_bind] at h
      obtain ⟨_, _, h⟩ := bind_eq_ok.mp h
      obtain ⟨⟨_, last⟩, hbody, h⟩ := bind_eq_ok.mp h
      cases Stmt.context_afterAll env false body _ _ _ hbody
      cases h
      rfl
  | .forLoop pos target iter body orelse, scope, ir, after, h => by
    cases orelse with
    | cons => cases h
    | nil =>
      simp only [Stmt.lower, Lowering.outcome_bind, Lowering.outcome_expr, bind_assoc,
        except_ok_bind] at h
      obtain ⟨_, _, h⟩ := bind_eq_ok.mp h
      obtain ⟨⟨_, last⟩, hbody, h⟩ := bind_eq_ok.mp h
      obtain ⟨_, _, h⟩ := bind_eq_ok.mp h
      cases Stmt.context_afterAll env false body _ _ _ hbody
      cases h
      rfl
  | .ret pos value, scope, ir, after, h => by
    rw [Stmt.lower, outcome_lowerReturn] at h
    obtain ⟨_, _, h⟩ := bind_eq_ok.mp h
    cases h
    rfl
  | .expr pos values, scope, ir, after, h => by
    rw [Stmt.lower, outcome_lowerExprStmt] at h
    obtain ⟨_, _, h⟩ := bind_eq_ok.mp h
    cases h
    rfl
  | .unknown pos kind, scope, ir, after, h => by
    rw [Stmt.lower] at h
    cases h

theorem Stmt.context_afterAll (env : Environment) (allow : Bool) :
    ∀ (stmts : List Stmt) (scope : Scope) (irs : List Ir) (after : Context),
      (Stmt.lowerAll allow stmts).outcome (.inBody env scope) = .ok (irs, after) →
        after = .inBody env (scope.bindAll (Stmt.assignedIn stmts))
  | [], scope, irs, after, h => by
    rw [Stmt.lowerAll] at h
    cases h
    rfl
  | stmt :: rest, scope, irs, after, h => by
    rw [Stmt.lowerAll, Lowering.outcome_bind] at h
    obtain ⟨⟨_, between⟩, hfirst, h⟩ := bind_eq_ok.mp h
    rw [Lowering.outcome_bind] at h
    obtain ⟨⟨_, last⟩, hrest, h⟩ := bind_eq_ok.mp h
    cases Stmt.context_after env _ stmt _ _ _ hfirst
    cases Stmt.context_afterAll env allow rest _ _ _ hrest
    cases h
    simp [Stmt.assigned, Stmt.assignedIn, Stmt.assignmentsIn]

end

/-! ## The compiled form of a statement -/

namespace Stmt

section

variable (env : Environment) (scope : Scope) (allow : Bool)

/-- The compiled form of a statement of a body in which the names of `scope` are bound. -/
def form (stmt : Stmt) : Except LowerError Ir :=
  (stmt.lower allow).outcome (.inBody env scope) >>= fun found => .ok found.1

/-- The compiled forms of statements of a body, one after another. -/
def forms (stmts : List Stmt) : Except LowerError (List Ir) :=
  (Stmt.lowerAll allow stmts).outcome (.inBody env scope) >>= fun found => .ok found.1

theorem outcome_lower (stmt : Stmt) :
    (stmt.lower allow).outcome (.inBody env scope) =
      stmt.form env scope allow >>= fun ir =>
        .ok (ir, .inBody env (scope.bindAll stmt.assigned)) := by
  unfold form
  cases found : (stmt.lower allow).outcome (.inBody env scope) with
  | error cause => rfl
  | ok pair =>
    obtain ⟨ir, after⟩ := pair
    cases stmt.context_after env allow scope ir after found
    rfl

theorem outcome_lowerAll (stmts : List Stmt) :
    (Stmt.lowerAll allow stmts).outcome (.inBody env scope) =
      forms env scope allow stmts >>= fun irs =>
        .ok (irs, .inBody env (scope.bindAll (assignedIn stmts))) := by
  unfold forms
  cases found : (Stmt.lowerAll allow stmts).outcome (.inBody env scope) with
  | error cause => rfl
  | ok pair =>
    obtain ⟨irs, after⟩ := pair
    cases context_afterAll env allow stmts scope irs after found
    rfl

/-! ### One equation for each kind -/

theorem form_function (pos : Position) (definition : FunctionDef) :
    form env scope allow (.function pos definition) =
      .error (.unsupportedNode "FunctionDef" definition.pos) := by
  rw [form, Stmt.lower, definition.outcome_lower_nested _ rfl]
  rfl

theorem form_assign (pos : Position) (target value : Expr) :
    form env scope allow (.assign pos target value) =
      assignForm env scope pos target value := by
  rw [form, Stmt.lower, outcome_lowerAssign]
  cases assignForm env scope pos target value <;> rfl

theorem form_augment (pos : Position) (target : Expr) (op : BinaryOperator) (value : Expr) :
    form env scope allow (.augment pos target op value) =
      augmentForm env scope pos target op value := by
  rw [form, Stmt.lower, outcome_lowerAugment]
  cases augmentForm env scope pos target op value <;> rfl

theorem form_branch (pos : Position) (test : Expr) (body orelse : List Stmt) :
    form env scope allow (.branch pos test body orelse) = (do
      let test ← test.lower env scope 0
      let body' ← forms env scope allow body
      let orelse ← forms env (scope.bindAll (assignedIn body)) allow orelse
      .ok (Ir.taggedCall pos Primitive.ifElse [test, blockOf pos body', blockOf pos orelse])) := by
  simp only [form, Stmt.lower, Lowering.outcome_bind, Lowering.outcome_expr, outcome_lowerAll,
    Lowering.outcome_pure, bind_assoc, except_ok_bind]
  rfl

theorem form_whileLoop (pos : Position) (test : Expr) (body orelse : List Stmt) :
    form env scope allow (.whileLoop pos test body orelse) =
      if orelse.isEmpty then do
        let test ← test.lower env scope 0
        let body ← forms env scope false body
        .ok (Ir.taggedCall pos Primitive.loop [test, blockOf pos body])
      else .error (.unsupportedNode "While.orelse" pos) := by
  cases orelse with
  | cons => rfl
  | nil =>
    simp only [form, Stmt.lower, Lowering.outcome_bind, Lowering.outcome_expr, outcome_lowerAll,
      Lowering.outcome_pure, bind_assoc, except_ok_bind]
    rfl

theorem form_forLoop (pos : Position) (target iter : Expr) (body orelse : List Stmt) :
    form env scope allow (.forLoop pos target iter body orelse) =
      if orelse.isEmpty then do
        let item ← target.lower env scope 0
        let body' ← forms env scope false body
        let iterable ← iter.lower env (scope.bindAll (assignedIn body)) 0
        let primitive :=
          if iter.isParallelRange then Primitive.parallelMap else Primitive.map
        .ok (Ir.taggedCall pos primitive
          [Ir.taggedCall iter.pos Primitive.lambda [item, Ir.bareCall Primitive.block body'],
            iterable])
      else .error (.unsupportedNode "For.orelse" pos) := by
  cases orelse with
  | cons => rfl
  | nil =>
    simp only [form, Stmt.lower, Lowering.outcome_bind, Lowering.outcome_expr, outcome_lowerAll,
      Lowering.outcome_pure, bind_assoc, except_ok_bind]
    rfl

theorem form_ret (pos : Position) (value : Option Expr) :
    form env scope allow (.ret pos value) = returnForm env scope pos value allow := by
  rw [form, Stmt.lower, outcome_lowerReturn]
  cases returnForm env scope pos value allow <;> rfl

theorem form_expr (pos : Position) (values : List Expr) :
    form env scope allow (.expr pos values) = exprForm env scope pos values := by
  rw [form, Stmt.lower, outcome_lowerExprStmt]
  cases exprForm env scope pos values <;> rfl

theorem form_unknown (pos : Position) (kind : String) :
    form env scope allow (.unknown pos kind) = .error (.unsupportedNode kind pos) := by
  rw [form, Stmt.lower]
  rfl

theorem forms_nil : forms env scope allow [] = .ok [] := by
  rw [forms, Stmt.lowerAll]
  rfl

theorem forms_cons (stmt : Stmt) (rest : List Stmt) :
    forms env scope allow (stmt :: rest) = (do
      let first ← stmt.form env scope (allow && rest.isEmpty)
      let others ← forms env (scope.bindAll stmt.assigned) allow rest
      .ok (first :: others)) := by
  rw [forms, Stmt.lowerAll]
  simp only [Lowering.outcome_bind, outcome_lower, outcome_lowerAll, Lowering.outcome_pure,
    bind_assoc, except_ok_bind]

end

end Stmt

/-- A function compiles as its body does, with its parameters bound. -/
theorem FunctionDef.compile_eq (env : Environment) (definition : FunctionDef) :
    definition.compile env = (do
      let body ← Stmt.forms env (.ofParams (definition.params.map (·.name))) true definition.body
      .ok (definition.defineOf body)) := by
  rw [definition.compile_eq_outcome]
  change (Stmt.lowerAll true definition.body).outcome (.inBody env _) >>= _ = _
  rw [Stmt.outcome_lowerAll, bind_assoc]
  rfl

end CallForm
