-- What can be wrong with each stop of the walk over a function, and the
-- law that nothing else keeps it from compiling: a function fails with the
-- first fault of its walk, and compiles if there is none.
import CallForm.Proofs.Visits

namespace CallForm

/-! ## The faults of a single stop -/

/-- The fault of an operator: it has no compiled one. -/
def operatorFault? {α : Type} (operators : OperatorClass) (text : String) (line : UInt32)
    (compiled : Option α) : Option LowerError :=
  if compiled.isSome then none else some (.unsupportedOperator operators text line)

/-- The fault of `object.member`: a dotted object asks for a member with a primitive, and a name
has to be bound or to stand for a module that exposes the member. -/
def memberFault? (env : Environment) (scope : Scope) (pos : Position) (object : Expr)
    (member : String) : Option LowerError :=
  let unresolvable := LowerError.unresolvableReference object.dotted member pos.line
  match object with
  | .attribute .. => if (env.references.resolve? member).isSome then none else some unresolvable
  | .name _ id =>
    if scope.isBound id || env.modules.exposes id member then none else some unresolvable
  | _ => none

/-- The fault of an expression itself, whatever stands inside it. -/
def Expr.fault? (env : Environment) (scope : Scope) : Expr → Option LowerError
  | .binary pos _ op _ => operatorFault? .binary op.text pos.line op.compiled?
  | .unary pos op _ => operatorFault? .unary op.text pos.line op.compiled?
  | .compare pos _ [op] [_] => operatorFault? .boolean op.text pos.line op.compiled?
  | .compare pos _ _ _ => some (.chainedComparison pos.line)
  | .call _ (.name ..) _ => none
  | .call _ (.attribute pos object member) _ => memberFault? env scope pos object member
  | .call _ callee _ => some (.unsupportedNode callee.kindName callee.pos)
  | .attribute pos object member => memberFault? env scope pos object member
  | .unknown pos kind => some (.unsupportedNode kind pos)
  | _ => none

/-- The fault of the index of a subscript that is read: it has not two dimensions. -/
def Index.selectorFault? (pos : Position) : Index → Option LowerError
  | .dims parts => if parts.length = 2 then none else some (.unsupportedSlicing pos.line)
  | _ => none

/-- The fault of the index of a subscript that is written: it is none of the four forms. -/
def Index.targetFault? (line : UInt32) : Index → Option LowerError
  | .item (.tuple _ items) => if items.length = 2 then none else some (.unsupportedSlicing line)
  | .item _ => none
  | .slice (.mk _ _ none _) => none
  | .dims [.slice (.mk _ _ none _), .slice (.mk _ _ none _)] => none
  | _ => some (.unsupportedSlicing line)

/-- The fault of a statement itself, whatever stands inside it. -/
def Stmt.fault? (last : Bool) : Stmt → Option LowerError
  | .function _ definition => some (.unsupportedNode "FunctionDef" definition.pos)
  | .assign _ (.name ..) _ | .assign _ (.subscript ..) _ => none
  | .assign pos _ _ => some (.unsupportedSlicing pos.line)
  | .augment pos target op _ =>
    if op = .add then
      match target with
      | .name .. => none
      | _ => some (.unsupportedSlicing pos.line)
    else some (.unsupportedOperator .augmented (op.text ++ "=") pos.line)
  | .branch .. => none
  | .whileLoop pos _ _ orelse =>
    if orelse.isEmpty then none else some (.unsupportedNode "While.orelse" pos)
  | .forLoop pos _ _ _ orelse =>
    if orelse.isEmpty then none else some (.unsupportedNode "For.orelse" pos)
  | .ret pos _ => if last then none else some (.misplacedReturn pos.line)
  | .expr pos values =>
    if values.length = 1 then none else some (.malformedExpression values.length pos.line)
  | .unknown pos kind => some (.unsupportedNode kind pos)

/-- The fault of a stop in a scope. -/
def Visit.fault? (env : Environment) (scope : Scope) : Visit → Option LowerError
  | .expr value => value.fault? env scope
  | .selector pos index => index.selectorFault? pos
  | .target line index => index.targetFault? line
  | .stmt last value => value.fault? last

/-- Lowering enters the object of an attribute unless it is dotted and the member has a
primitive. -/
def Environment.enters (env : Environment) (object : Expr) (member : String) : Bool :=
  match object with
  | .attribute .. => (env.references.resolve? member).isNone
  | _ => true

/-- The faults of a walk, in its order. -/
def faultsIn (env : Environment) (start : Scope) (visits : List (Place × Visit)) :
    List LowerError :=
  visits.filterMap fun (place, visit) => visit.fault? env (place.scope start)

/-- The scope that a function starts with. -/
def FunctionDef.start (definition : FunctionDef) : Scope :=
  Scope.ofParams (definition.params.map (·.name))

/-- The faults of a function, in the order in which lowering meets them. -/
def FunctionDef.faults (env : Environment) (definition : FunctionDef) : List LowerError :=
  faultsIn env definition.start (definition.visits env.enters)

/-! ## Results that faults decide -/

/-- A result is decided by faults: it is a failure with the first one, or a success if there is
none. -/
def Judged {α : Type} (faults : List LowerError) (result : Except LowerError α) : Prop :=
  match faults with
  | [] => ∃ value, result = .ok value
  | first :: _ => result = .error first

theorem Judged.ok {α : Type} (value : α) : Judged [] (.ok value) := ⟨value, rfl⟩

theorem Judged.bind {α β : Type} {faults later : List LowerError} {first : Except LowerError α}
    {next : α → Except LowerError β} (h : Judged faults first)
    (hnext : ∀ value, Judged later (next value)) : Judged (faults ++ later) (first >>= next) := by
  cases faults with
  | nil =>
    obtain ⟨value, rfl⟩ := h
    exact hnext value
  | cons cause rest =>
    have failed : first = .error cause := h
    rw [failed]
    rfl

theorem Judged.done {α β : Type} {faults : List LowerError} {first : Except LowerError α}
    (h : Judged faults first) (made : α → β) :
    Judged faults (first >>= fun value => .ok (made value)) := by
  have bound := h.bind fun value => Judged.ok (made value)
  rwa [List.append_nil] at bound

theorem Judged.eq_error {α : Type} {faults : List LowerError} {result : Except LowerError α}
    (h : Judged faults result) (faulty : faults ≠ []) :
    ∃ cause, result = .error cause ∧ faults.head? = some cause := by
  cases faults with
  | nil => exact absurd rfl faulty
  | cons cause rest => exact ⟨cause, h, rfl⟩

section

variable (env : Environment) (start : Scope)

@[simp] theorem faultsIn_nil : faultsIn env start [] = [] := rfl

theorem faultsIn_cons (place : Place) (visit : Visit) (rest : List (Place × Visit)) :
    faultsIn env start ((place, visit) :: rest) =
      (visit.fault? env (place.scope start)).toList ++ faultsIn env start rest := by
  unfold faultsIn
  cases found : visit.fault? env (place.scope start) <;> simp [found]

@[simp] theorem faultsIn_append (visits more : List (Place × Visit)) :
    faultsIn env start (visits ++ more) = faultsIn env start visits ++ faultsIn env start more :=
  List.filterMap_append

/-! ## Expressions -/

theorem BinaryOperator.judged_compile (op : BinaryOperator) (line : UInt32) :
    Judged (operatorFault? .binary op.text line op.compiled?).toList (op.compile line) := by
  unfold compile operatorFault?
  cases op.compiled? with
  | none => rfl
  | some operator => exact .ok operator

theorem UnaryOperator.judged_compile (op : UnaryOperator) (line : UInt32) :
    Judged (operatorFault? .unary op.text line op.compiled?).toList (op.compile line) := by
  unfold compile operatorFault?
  cases op.compiled? with
  | none => rfl
  | some operator => exact .ok operator

theorem Comparison.judged_compile (op : Comparison) (line : UInt32) :
    Judged (operatorFault? .boolean op.text line op.compiled?).toList (op.compile line) := by
  unfold compile operatorFault?
  cases op.compiled? with
  | none => rfl
  | some operator => exact .ok operator

/-- The object of an attribute is judged by the attribute itself, and by its own walk where it is
entered. -/
theorem judged_receiverOf (place : Place) (pos : Position) (object : Expr) (member : String)
    {lowered : Except LowerError Ir} {inside : List (Place × Visit)}
    (h : Judged (faultsIn env start inside) lowered) :
    Judged ((memberFault? env (place.scope start) pos object member).toList ++
        faultsIn env start (objectVisits env.enters object member inside))
      (receiverOf env (place.scope start) pos object member lowered) := by
  cases object with
  | name at' id =>
    unfold memberFault? receiverOf objectVisits
    by_cases bound : (place.scope start).isBound id = true
    · simp [bound, Judged]
    · by_cases exposed : env.modules.exposes id member = true
      · simp [bound, exposed, Judged]
      · simp [bound, exposed, Judged]
  | «attribute» at' inner middle =>
    -- The object's own result plays no part: either the attribute is at fault or nothing inside
    -- the object is visited.
    unfold memberFault? receiverOf objectVisits Environment.enters
    cases found : env.references.resolve? member with
    | none => simp [Judged]
    | some primitive => simp [Judged]
  | _ => cases lowered <;> exact h.done fun ir => [ir]

variable (place : Place)

mutual

/-- Lowering an expression is decided by the faults of the walk over it. -/
theorem Expr.judged_lower (priority : Nat) : ∀ value : Expr,
    Judged (faultsIn env start (value.visits env.enters place))
      (value.lower env (place.scope start) priority)
  | .name .. | .number .. | .string .. | .constant .. => .ok _
  | .binary pos left op right => by
    rw [Expr.lower, Expr.visits, faultsIn_cons, faultsIn_append]
    apply (op.judged_compile _).bind
    intro operator
    apply (left.judged_lower _).bind
    intro lhs
    exact (right.judged_lower _).done _
  | .unary pos op operand => by
    rw [Expr.lower, Expr.visits, faultsIn_cons]
    apply (op.judged_compile _).bind
    intro operator
    exact (operand.judged_lower _).done _
  | .compare pos left [op] [right] => by
    rw [Expr.lower, Expr.visits, faultsIn_cons, faultsIn_append, Expr.visitsAll, Expr.visitsAll,
      List.append_nil]
    apply (op.judged_compile _).bind
    intro operator
    apply (left.judged_lower _).bind
    intro lhs
    exact (right.judged_lower _).done _
  | .compare _ _ [] _ | .compare _ _ (_ :: _ :: _) _ | .compare _ _ [_] []
  | .compare _ _ [_] (_ :: _ :: _) => rfl
  | .call pos callee args => by
    cases callee with
    | name at' id =>
      rw [Expr.lower, Expr.visits, faultsIn_cons]
      exact (Expr.judged_lowerAll 0 args).done _
    | «attribute» at' object member =>
      rw [Expr.lower, Expr.visits, faultsIn_cons, faultsIn_append, ← List.append_assoc]
      apply (judged_receiverOf env start place _ _ _ (object.judged_lower 0)).bind
      intro receiver
      exact (Expr.judged_lowerAll 0 args).done _
    | _ => rfl
  | .attribute pos object member => by
    rw [Expr.lower, Expr.visits, faultsIn_cons]
    exact (judged_receiverOf env start place _ _ _ (object.judged_lower 0)).done _
  | .subscript pos base index => by
    rw [Expr.lower, Expr.visits, faultsIn_cons, faultsIn_append, faultsIn_cons]
    apply (base.judged_lower 0).bind
    intro base'
    exact (index.judged_lower pos).done _
  | .list pos items => by
    rw [Expr.lower, Expr.visits, faultsIn_cons]
    exact (Expr.judged_lowerAll 0 items).done _
  | .tuple pos items => by
    rw [Expr.lower, Expr.visits, faultsIn_cons]
    exact (Expr.judged_lowerAll 0 items).done _
  | .lambda pos params body => by
    rw [Expr.lower, Expr.visits, faultsIn_cons]
    exact (body.judged_lower 0).done _
  | .unknown .. => rfl

theorem Expr.judged_lowerAll (priority : Nat) : ∀ values : List Expr,
    Judged (faultsIn env start (Expr.visitsAll env.enters place values))
      (Expr.lowerAll env (place.scope start) priority values)
  | [] => .ok _
  | value :: rest => by
    rw [Expr.lowerAll, Expr.visitsAll, faultsIn_append]
    apply (value.judged_lower _).bind
    intro first
    exact (Expr.judged_lowerAll _ rest).done _

theorem Expr.judged_lowerBound (priority : Nat) (absent : Ir) : ∀ bound : Option Expr,
    Judged (faultsIn env start (Expr.visitsOf env.enters place bound))
      (Expr.lowerBound env (place.scope start) priority absent bound)
  | none => .ok _
  | some bound => bound.judged_lower priority

/-- Reading by an index is decided by the fault of the index itself and the walk over it. -/
theorem Index.judged_lower (pos : Position) : ∀ index : Index,
    Judged ((index.selectorFault? pos).toList ++
        faultsIn env start (index.visits env.enters place))
      (index.lower env (place.scope start) pos)
  | .item value => value.judged_lower 0
  | .slice bounds => bounds.judged_lower 0
  | .dims [first, second] => by
    rw [Index.lower, Index.visits, Dim.visitsAll, Dim.visitsAll, Dim.visitsAll, List.append_nil,
      faultsIn_append]
    apply (first.judged_lower 0).bind
    intro first'
    exact (second.judged_lower 0).done _
  | .dims [] | .dims [_] | .dims (_ :: _ :: _ :: _) => rfl

theorem Dim.judged_lower (priority : Nat) : ∀ dim : Dim,
    Judged (faultsIn env start (dim.visits env.enters place))
      (dim.lower env (place.scope start) priority)
  | .item value => value.judged_lower priority
  | .slice bounds => bounds.judged_lower priority

theorem Slice.judged_lower (priority : Nat) : ∀ bounds : Slice,
    Judged (faultsIn env start (bounds.visits env.enters place))
      (bounds.lower env (place.scope start) priority)
  | .mk lower upper none _ => by
    rw [Slice.lower, Slice.visits, Expr.visitsOf, List.append_nil, faultsIn_append]
    apply (Expr.judged_lowerBound _ _ lower).bind
    intro low
    exact (Expr.judged_lowerBound _ _ upper).done _
  | .mk lower upper (some step) _ => by
    rw [Slice.lower, Slice.visits, Expr.visitsOf, faultsIn_append, faultsIn_append]
    apply (Expr.judged_lowerBound _ _ lower).bind
    intro low
    apply (Expr.judged_lowerBound _ _ upper).bind
    intro high
    exact (step.judged_lower _).done _

end

/-- Writing by an index is decided by the fault of the index itself and the walk over it. -/
theorem Index.judged_lowerTarget (priority : Nat) (line : UInt32) : ∀ index : Index,
    Judged ((index.targetFault? line).toList ++
        faultsIn env start (index.targetVisits env.enters place))
      (index.lowerTarget env (place.scope start) priority line)
  | .item value => by
    cases value with
    | tuple pos items =>
      match items with
      | [row, column] =>
        have walk : Index.targetVisits env.enters place (.item (.tuple pos [row, column])) =
            row.visits env.enters place ++ column.visits env.enters place := by
          simp [Index.targetVisits, Expr.visitsAll]
        rw [walk, faultsIn_append]
        apply (row.judged_lower env start place priority).bind
        intro row'
        exact (column.judged_lower env start place priority).done _
      | [] | [_] | _ :: _ :: _ :: _ => rfl
    | _ => exact (Expr.judged_lower env start place priority _).done _
  | .slice (.mk lower upper none pos) => by
    have walk : Index.targetVisits env.enters place (.slice (.mk lower upper none pos)) =
        Expr.visitsOf env.enters place lower ++ Expr.visitsOf env.enters place upper := by
      simp [Index.targetVisits, Index.visits, Slice.visits, Expr.visitsOf]
    rw [walk, faultsIn_append]
    apply (Expr.judged_lowerBound env start place priority Ir.zero lower).bind
    intro low
    exact (Expr.judged_lowerBound env start place priority Ir.zero upper).done _
  | .slice (.mk _ _ (some _) _) => rfl
  | .dims [.slice (.mk rowLow rowHigh none pos), .slice (.mk columnLow columnHigh none pos')] => by
    have walk : Index.targetVisits env.enters place
        (.dims [.slice (.mk rowLow rowHigh none pos),
          .slice (.mk columnLow columnHigh none pos')]) =
        Expr.visitsOf env.enters place rowLow ++ (Expr.visitsOf env.enters place rowHigh ++
          (Expr.visitsOf env.enters place columnLow ++
            Expr.visitsOf env.enters place columnHigh)) := by
      simp [Index.targetVisits, Index.visits, Dim.visitsAll, Dim.visits, Slice.visits,
        Expr.visitsOf]
    rw [walk, faultsIn_append, faultsIn_append, faultsIn_append]
    have bound := Expr.judged_lowerBound env start place priority
    apply (bound Ir.zero rowLow).bind
    intro rowLow'
    apply (bound (Ir.bare Primitive.nil) rowHigh).bind
    intro rowHigh'
    apply (bound Ir.zero columnLow).bind
    intro columnLow'
    exact (bound (Ir.bare Primitive.nil) columnHigh).done _
  | .dims [] | .dims (.item _ :: _) | .dims (.slice (.mk _ _ (some _) _) :: _)
  | .dims [.slice (.mk _ _ none _)] | .dims (.slice (.mk _ _ none _) :: .item _ :: _)
  | .dims (.slice (.mk _ _ none _) :: .slice (.mk _ _ (some _) _) :: _)
  | .dims (.slice (.mk _ _ none _) :: .slice (.mk _ _ none _) :: _ :: _) => rfl

/-- Writing part of a value is decided by the walks over base, index and value. -/
theorem Expr.judged_set (priority : Nat) (line : UInt32) (base : Expr) (index : Index)
    (value : Expr) :
    Judged (faultsIn env start (base.visits env.enters place) ++
        (((index.targetFault? line).toList ++
          faultsIn env start (index.targetVisits env.enters place)) ++
            faultsIn env start (value.visits env.enters place)))
      (Expr.lowerSet env (place.scope start) priority line base index value) := by
  unfold Expr.lowerSet
  apply (base.judged_lower env start place priority).bind
  intro base'
  apply (index.judged_lowerTarget env start place priority line).bind
  intro parts
  exact (value.judged_lower env start place priority).done _

/-! ## Statements -/

variable (before : List String)

theorem faultsIn_assignVisits (pos at' : Position) (base : Expr) (index : Index) (value : Expr) :
    faultsIn env start (assignVisits env.enters before pos (.subscript at' base index) value) =
      faultsIn env start (base.visits env.enters ⟨before, []⟩) ++
        (((index.targetFault? pos.line).toList ++
          faultsIn env start (index.targetVisits env.enters ⟨before, []⟩)) ++
            faultsIn env start (value.visits env.enters ⟨before, []⟩)) := by
  simp only [assignVisits, faultsIn_append, faultsIn_cons, Visit.fault?, List.append_assoc]

theorem judged_assignForm (pos : Position) (target value : Expr) (last : Bool) :
    Judged ((Stmt.fault? last (.assign pos target value)).toList ++
        faultsIn env start (assignVisits env.enters before pos target value))
      (assignForm env (start.bindAll before) pos target value) := by
  cases target with
  | name at' id =>
    have hvalue := value.judged_lower env start ⟨before, [id]⟩ 0
    exact hvalue.done _
  | subscript at' base index =>
    have walk := faultsIn_assignVisits env start before pos at' base index value
    have set := Expr.judged_set env start ⟨before, []⟩ 0 pos.line base index value
    rw [← walk] at set
    exact set
  | _ => rfl

theorem judged_augmentForm (pos : Position) (target : Expr) (op : BinaryOperator) (value : Expr)
    (last : Bool) :
    Judged ((Stmt.fault? last (.augment pos target op value)).toList ++
        faultsIn env start (augmentVisits env.enters before target value))
      (augmentForm env (start.bindAll before) pos target op value) := by
  cases op with
  | add =>
    cases target with
    | name at' id =>
      have hvalue := value.judged_lower env start ⟨before, []⟩ InfixOperator.add.rightSlot
      exact hvalue.done _
    | _ => rfl
  | _ => rfl

theorem judged_returnForm (pos : Position) (value : Option Expr) (last : Bool) :
    Judged ((Stmt.fault? last (.ret pos value)).toList ++
        faultsIn env start (Expr.visitsOf env.enters ⟨before, []⟩ value))
      (returnForm env (start.bindAll before) pos value last) := by
  cases last with
  | false => rfl
  | true =>
    cases value with
    | none => exact .ok _
    | some value =>
      exact value.judged_lower env start ⟨before, []⟩ 0

theorem judged_exprForm (pos : Position) (values : List Expr) (last : Bool) :
    Judged ((Stmt.fault? last (.expr pos values)).toList ++
        faultsIn env start (Expr.visitsAll env.enters ⟨before, []⟩ values))
      (exprForm env (start.bindAll before) pos values) := by
  match values with
  | [value] =>
    have hvalue := value.judged_lower env start ⟨before, []⟩ 0
    rw [Expr.visitsAll, Expr.visitsAll, List.append_nil]
    exact hvalue.done _
  | [] | _ :: _ :: _ => rfl

mutual

/-- Compiling a statement is decided by the faults of the walk over it. -/
theorem Stmt.judged_form (last : Bool) : ∀ (stmt : Stmt) (before : List String),
    Judged (faultsIn env start (stmt.visits env.enters before last))
      (stmt.form env (start.bindAll before) last)
  | .function pos (.mk name params body place), before => by
    rw [Stmt.form_function]
    rfl
  | .assign pos target value, before => by
    rw [Stmt.form_assign, Stmt.visits, faultsIn_cons]
    exact judged_assignForm env start before pos target value last
  | .augment pos target op value, before => by
    rw [Stmt.form_augment, Stmt.visits, faultsIn_cons]
    exact judged_augmentForm env start before pos target op value last
  | .branch pos test body orelse, before => by
    have htest := test.judged_lower env start ⟨before, []⟩ 0
    rw [Stmt.form_branch, Stmt.visits, faultsIn_cons, faultsIn_append, faultsIn_append,
      Scope.bindAll_bindAll]
    apply htest.bind
    intro test'
    apply (Stmt.judged_forms last body before).bind
    intro first
    exact (Stmt.judged_forms last orelse _).done _
  | .whileLoop pos test body orelse, before => by
    rw [Stmt.form_whileLoop]
    cases orelse with
    | cons => rfl
    | nil =>
      have htest := test.judged_lower env start ⟨before, []⟩ 0
      rw [Stmt.visits, faultsIn_cons, faultsIn_append, Stmt.visitsAll, List.append_nil]
      apply htest.bind
      intro test'
      exact (Stmt.judged_forms false body before).done _
  | .forLoop pos target iter body orelse, before => by
    rw [Stmt.form_forLoop]
    cases orelse with
    | cons => rfl
    | nil =>
      have htarget := target.judged_lower env start ⟨before, []⟩ 0
      -- The sequence is lowered after the body, with all that the body assigns bound.
      have hiter := iter.judged_lower env start ⟨before, Stmt.assignedIn body⟩ 0
      rw [Stmt.visits, faultsIn_cons, faultsIn_append, faultsIn_append, Stmt.visitsAll,
        List.append_nil]
      apply htarget.bind
      intro item
      apply (Stmt.judged_forms false body before).bind
      intro inner
      exact hiter.done _
  | .ret pos value, before => by
    rw [Stmt.form_ret, Stmt.visits, faultsIn_cons]
    exact judged_returnForm env start before pos value last
  | .expr pos values, before => by
    rw [Stmt.form_expr, Stmt.visits, faultsIn_cons]
    exact judged_exprForm env start before pos values last
  | .unknown pos kind, before => by
    rw [Stmt.form_unknown]
    rfl

theorem Stmt.judged_forms (last : Bool) : ∀ (stmts : List Stmt) (before : List String),
    Judged (faultsIn env start (Stmt.visitsAll env.enters before last stmts))
      (Stmt.forms env (start.bindAll before) last stmts)
  | [], before => by
    rw [Stmt.forms_nil]
    exact .ok _
  | stmt :: rest, before => by
    rw [Stmt.forms_cons, Stmt.visitsAll, faultsIn_append, Scope.bindAll_bindAll]
    apply (Stmt.judged_form _ stmt before).bind
    intro first
    exact (Stmt.judged_forms last rest _).done _

end

end

/-! ## Functions -/

/-- A function fails with its first fault, and compiles if it has none. -/
theorem FunctionDef.judged_compile (env : Environment) (definition : FunctionDef) :
    Judged (definition.faults env) (definition.compile env) := by
  rw [definition.compile_eq]
  exact (Stmt.judged_forms env definition.start true definition.body []).done _

/-- A function fails if its walk comes by anything that is at fault. -/
theorem FunctionDef.fails_of_fault (env : Environment) (definition : FunctionDef)
    {place : Place} {visit : Visit} (met : (place, visit) ∈ definition.visits env.enters)
    (faulty : ∃ cause, visit.fault? env (place.scope definition.start) = some cause) :
    ∃ cause, definition.compile env = .error cause ∧
      (definition.faults env).head? = some cause := by
  obtain ⟨cause, hcause⟩ := faulty
  have listed : cause ∈ definition.faults env := List.mem_filterMap.mpr ⟨_, met, hcause⟩
  exact (definition.judged_compile env).eq_error (List.ne_nil_of_mem listed)

/-- A stop at fault makes a function fail, with the first fault in front of it if there is one. -/
theorem FunctionDef.fails_at (env : Environment) (definition : FunctionDef)
    {earlier later : List (Place × Visit)} {place : Place} {visit : Visit} {cause : LowerError}
    (split : definition.visits env.enters = earlier ++ (place, visit) :: later)
    (faulty : visit.fault? env (place.scope definition.start) = some cause) :
    definition.compile env =
      .error ((faultsIn env definition.start earlier).headD cause) := by
  have judged := definition.judged_compile env
  rw [FunctionDef.faults, split, faultsIn_append, faultsIn_cons, faulty] at judged
  cases found : faultsIn env definition.start earlier with
  | nil =>
    rw [found] at judged
    exact judged
  | cons first rest =>
    rw [found] at judged
    exact judged

end CallForm
