-- The laws of return placement: a function returns only where nothing of it
-- runs afterwards, the first return elsewhere is what compiling it fails
-- with, and a complaint about a return always has one on its line.
import CallForm.Proofs.Body

namespace CallForm

/-! ## Return statements -/

/-- A return statement: where it stands, and whether nothing of its function runs after it. -/
structure ReturnSite where
  pos : Position
  terminal : Bool
deriving Repr, DecidableEq

mutual

/-- The return statements of a statement, in source order. `last` says that the statement is the
last one of its function, or of a branch that is. -/
def Stmt.returns (last : Bool) : Stmt → List ReturnSite
  | .ret pos _ => [⟨pos, last⟩]
  | .branch _ _ body orelse => Stmt.returnsIn last body ++ Stmt.returnsIn last orelse
  | .whileLoop _ _ body orelse => Stmt.returnsIn false body ++ Stmt.returnsIn false orelse
  | .forLoop _ _ _ body orelse => Stmt.returnsIn false body ++ Stmt.returnsIn false orelse
  | .function _ (.mk _ _ body _) => Stmt.returnsIn false body
  | _ => []

/-- The return statements of statements, in source order. -/
def Stmt.returnsIn (last : Bool) : List Stmt → List ReturnSite
  | [] => []
  | [stmt] => stmt.returns last
  | stmt :: next :: rest => stmt.returns false ++ Stmt.returnsIn last (next :: rest)

end

/-- The return statements of a function, in source order. -/
def FunctionDef.returns (definition : FunctionDef) : List ReturnSite :=
  Stmt.returnsIn true definition.body

mutual

/-- A statement with its returns replaced by expression statements of what they return. -/
def Stmt.withoutReturns : Stmt → Stmt
  | .ret pos (some value) => .expr pos [value]
  | .ret pos none => .expr pos [.constant pos .none]
  | .branch pos test body orelse =>
    .branch pos test (Stmt.withoutReturnsIn body) (Stmt.withoutReturnsIn orelse)
  | .whileLoop pos test body orelse =>
    .whileLoop pos test (Stmt.withoutReturnsIn body) (Stmt.withoutReturnsIn orelse)
  | .forLoop pos target iter body orelse =>
    .forLoop pos target iter (Stmt.withoutReturnsIn body) (Stmt.withoutReturnsIn orelse)
  | .function pos (.mk name params body place) =>
    .function pos (.mk name params (Stmt.withoutReturnsIn body) place)
  | stmt => stmt

/-- Statements with their returns replaced by expression statements of what they return. -/
def Stmt.withoutReturnsIn : List Stmt → List Stmt
  | [] => []
  | stmt :: rest => stmt.withoutReturns :: Stmt.withoutReturnsIn rest

end

/-- A function with its returns replaced by expression statements of what they return. -/
def FunctionDef.withoutReturns : FunctionDef → FunctionDef
  | .mk name params body pos => .mk name params (Stmt.withoutReturnsIn body) pos

theorem Stmt.returnsIn_cons (last : Bool) (stmt : Stmt) (rest : List Stmt) :
    Stmt.returnsIn last (stmt :: rest) =
      stmt.returns (last && rest.isEmpty) ++ Stmt.returnsIn last rest := by
  cases rest <;> simp [Stmt.returnsIn]

@[simp] theorem Stmt.isEmpty_withoutReturnsIn (stmts : List Stmt) :
    (Stmt.withoutReturnsIn stmts).isEmpty = stmts.isEmpty := by
  cases stmts <;> rfl

mutual

theorem Stmt.assignments_withoutReturns : ∀ stmt : Stmt,
    stmt.withoutReturns.assignments = stmt.assignments
  | .branch _ _ body orelse => by
    simp only [Stmt.withoutReturns, Stmt.assignments,
      Stmt.assignmentsIn_withoutReturnsIn body, Stmt.assignmentsIn_withoutReturnsIn orelse]
  | .whileLoop _ _ body _ => by
    simp only [Stmt.withoutReturns, Stmt.assignments, Stmt.assignmentsIn_withoutReturnsIn body]
  | .forLoop _ _ _ body _ => by
    simp only [Stmt.withoutReturns, Stmt.assignments, Stmt.assignmentsIn_withoutReturnsIn body]
  | .ret _ (some _) | .ret _ none => rfl
  | .function _ (.mk ..) => rfl
  | .assign .. | .augment .. | .expr .. | .unknown .. => rfl

theorem Stmt.assignmentsIn_withoutReturnsIn : ∀ stmts : List Stmt,
    Stmt.assignmentsIn (Stmt.withoutReturnsIn stmts) = Stmt.assignmentsIn stmts
  | [] => rfl
  | stmt :: rest => by
    simp only [Stmt.withoutReturnsIn, Stmt.assignmentsIn, stmt.assignments_withoutReturns,
      Stmt.assignmentsIn_withoutReturnsIn rest]

end

@[simp] theorem Stmt.assigned_withoutReturns (stmt : Stmt) :
    stmt.withoutReturns.assigned = stmt.assigned := by
  rw [Stmt.assigned, Stmt.assignments_withoutReturns]
  rfl

@[simp] theorem Stmt.assignedIn_withoutReturnsIn (stmts : List Stmt) :
    Stmt.assignedIn (Stmt.withoutReturnsIn stmts) = Stmt.assignedIn stmts := by
  rw [Stmt.assignedIn, Stmt.assignmentsIn_withoutReturnsIn]
  rfl

/-! ## What a result tells about returns -/

/-- A result speaks the truth about the return statements of what was compiled: a success means
that all of them are terminal, a misplaced return means that one on its line is not. -/
def Truthful {α : Type} (sites : List ReturnSite) : Except LowerError α → Prop
  | .ok _ => ∀ site ∈ sites, site.terminal = true
  | .error (.misplacedReturn line) =>
    ∃ site ∈ sites, site.terminal = false ∧ site.pos.line = line
  | .error _ => True

/-- A result is decided by the return statements of what was compiled: it is a success if all of
them are terminal, and otherwise it blames the first one that is not. -/
def Decided {α : Type} (sites : List ReturnSite) (result : Except LowerError α) : Prop :=
  match sites.find? (!·.terminal) with
  | none => ∃ value, result = .ok value
  | some site => result = .error (.misplacedReturn site.pos.line)

theorem Truthful.ok {α : Type} (value : α) : Truthful [] (.ok value) := by
  simp [Truthful]

theorem Truthful.bind {α β : Type} {sites others : List ReturnSite}
    {first : Except LowerError α} {next : α → Except LowerError β}
    (h : Truthful sites first) (hnext : ∀ value, Truthful others (next value)) :
    Truthful (sites ++ others) (first >>= next) := by
  rcases first with cause | value
  · cases cause with
    | misplacedReturn line =>
      obtain ⟨site, found, misplaced⟩ := h
      exact ⟨site, List.mem_append_left _ found, misplaced⟩
    | _ => trivial
  · have later := hnext value
    rw [except_ok_bind]
    generalize next value = result at later
    rcases result with cause | value
    · cases cause with
      | misplacedReturn line =>
        obtain ⟨site, found, misplaced⟩ := later
        exact ⟨site, List.mem_append_right _ found, misplaced⟩
      | _ => trivial
    · intro site found
      rcases List.mem_append.mp found with found | found
      · exact h site found
      · exact later site found

/-- A part that has no return statements adds none. -/
theorem Truthful.part {α β : Type} {sites : List ReturnSite} {first : Except LowerError α}
    {next : α → Except LowerError β} (h : Truthful [] first)
    (hnext : ∀ value, Truthful sites (next value)) : Truthful sites (first >>= next) :=
  Truthful.bind h hnext

theorem Truthful.done {α β : Type} {sites : List ReturnSite} {first : Except LowerError α}
    (h : Truthful sites first) (made : α → β) :
    Truthful sites (first >>= fun value => .ok (made value)) := by
  have := h.bind (fun value => Truthful.ok (made value))
  rwa [List.append_nil] at this

theorem Decided.ok {α : Type} (value : α) : Decided [] (.ok value) :=
  ⟨value, rfl⟩

theorem Decided.bind {α β : Type} {sites others : List ReturnSite}
    {first : Except LowerError α} {next : α → Except LowerError β}
    (h : Decided sites first) (hnext : ∀ value, Decided others (next value)) :
    Decided (sites ++ others) (first >>= next) := by
  unfold Decided at h ⊢
  rw [List.find?_append]
  cases found : sites.find? (!·.terminal) with
  | some site =>
    rw [found] at h
    simp [h]
  | none =>
    rw [found] at h
    obtain ⟨value, rfl⟩ := h
    exact hnext value

theorem Decided.done {α β : Type} {sites : List ReturnSite} {first : Except LowerError α}
    (h : Decided sites first) (made : α → β) :
    Decided sites (first >>= fun value => .ok (made value)) := by
  have := h.bind (fun value => Decided.ok (made value))
  rwa [List.append_nil] at this

/-! ## Expressions -/

variable (env : Environment) (scope : Scope)

theorem truthful_receiverOf (pos : Position) (object : Expr) (member : String)
    {lowered : Except LowerError Ir} (h : Truthful [] lowered) :
    Truthful [] (receiverOf env scope pos object member lowered) := by
  have alone := h.done fun ir => [ir]
  unfold receiverOf
  split
  · split <;> simp [Truthful]
  · split
    · simp [Truthful]
    · split <;> simp [Truthful]
  · cases lowered <;> exact alone

theorem BinaryOperator.truthful_compile (op : BinaryOperator) (line : UInt32) :
    Truthful [] (op.compile line) := by
  cases op <;> simp [compile, compiled?, Truthful]

theorem UnaryOperator.truthful_compile (op : UnaryOperator) (line : UInt32) :
    Truthful [] (op.compile line) := by
  cases op <;> simp [compile, compiled?, Truthful]

theorem Comparison.truthful_compile (op : Comparison) (line : UInt32) :
    Truthful [] (op.compile line) := by
  cases op <;> simp [compile, compiled?, Truthful]

mutual

/-- An expression holds no return statement, and compiling it never complains about one. -/
theorem Expr.truthful_lower (priority : Nat) : ∀ value : Expr,
    Truthful [] (value.lower env scope priority)
  | .name .. | .number .. | .string .. | .constant .. => .ok _
  | .binary pos left op right => by
    rw [Expr.lower]
    exact .part (op.truthful_compile _) fun _ =>
      .part (left.truthful_lower _) fun _ => (right.truthful_lower _).done _
  | .unary pos op operand => by
    rw [Expr.lower]
    exact .part (op.truthful_compile _) fun _ => (operand.truthful_lower _).done _
  | .compare pos left [op] [right] => by
    rw [Expr.lower]
    exact .part (op.truthful_compile _) fun _ =>
      .part (left.truthful_lower _) fun _ => (right.truthful_lower _).done _
  | .compare _ _ [] _ | .compare _ _ (_ :: _ :: _) _ | .compare _ _ [_] []
  | .compare _ _ [_] (_ :: _ :: _) => trivial
  | .call pos callee args => by
    cases callee with
    | name _ id =>
      rw [Expr.lower]
      exact (Expr.truthful_lowerAll 0 args).done _
    | «attribute» place object member =>
      rw [Expr.lower]
      exact .part (truthful_receiverOf env scope place object member (object.truthful_lower 0))
        fun _ => (Expr.truthful_lowerAll 0 args).done _
    | _ => trivial
  | .attribute pos object member => by
    rw [Expr.lower]
    exact (truthful_receiverOf env scope pos object member (object.truthful_lower 0)).done _
  | .subscript pos base index => by
    rw [Expr.lower]
    exact .part (base.truthful_lower 0) fun _ => (index.truthful_lower pos).done _
  | .list pos items => by
    rw [Expr.lower]
    exact (Expr.truthful_lowerAll 0 items).done _
  | .tuple _ items => by
    rw [Expr.lower]
    exact (Expr.truthful_lowerAll 0 items).done _
  | .lambda pos params body => by
    rw [Expr.lower]
    exact (body.truthful_lower 0).done _
  | .unknown .. => trivial

theorem Expr.truthful_lowerAll (priority : Nat) : ∀ values : List Expr,
    Truthful [] (Expr.lowerAll env scope priority values)
  | [] => .ok _
  | value :: rest => by
    rw [Expr.lowerAll]
    exact .part (value.truthful_lower _) fun _ => (Expr.truthful_lowerAll _ rest).done _

theorem Expr.truthful_lowerBound (priority : Nat) (absent : Ir) : ∀ bound : Option Expr,
    Truthful [] (Expr.lowerBound env scope priority absent bound)
  | none => .ok _
  | some bound => bound.truthful_lower priority

theorem Index.truthful_lower (pos : Position) : ∀ index : Index,
    Truthful [] (index.lower env scope pos)
  | .item value => value.truthful_lower 0
  | .slice bounds => bounds.truthful_lower 0
  | .dims [first, second] => by
    rw [Index.lower]
    exact .part (first.truthful_lower 0) fun _ => (second.truthful_lower 0).done _
  | .dims [] | .dims [_] | .dims (_ :: _ :: _ :: _) => trivial

theorem Dim.truthful_lower (priority : Nat) : ∀ dim : Dim,
    Truthful [] (dim.lower env scope priority)
  | .item value => value.truthful_lower priority
  | .slice bounds => bounds.truthful_lower priority

theorem Slice.truthful_lower (priority : Nat) : ∀ bounds : Slice,
    Truthful [] (bounds.lower env scope priority)
  | .mk lower upper none _ => by
    rw [Slice.lower]
    exact .part (Expr.truthful_lowerBound _ _ lower) fun _ =>
      (Expr.truthful_lowerBound _ _ upper).done _
  | .mk lower upper (some step) _ => by
    rw [Slice.lower]
    exact .part (Expr.truthful_lowerBound _ _ lower) fun _ =>
      .part (Expr.truthful_lowerBound _ _ upper) fun _ => (step.truthful_lower _).done _

end

theorem Index.truthful_lowerTarget (priority : Nat) (line : UInt32) (index : Index) :
    Truthful [] (index.lowerTarget env scope priority line) := by
  unfold Index.lowerTarget
  split
  · exact .part (Expr.truthful_lowerBound ..) fun _ => (Expr.truthful_lowerBound ..).done _
  · exact .part (Expr.truthful_lower ..) fun _ => (Expr.truthful_lower ..).done _
  · trivial
  · exact (Expr.truthful_lower ..).done _
  · exact .part (Expr.truthful_lowerBound ..) fun _ => .part (Expr.truthful_lowerBound ..) fun _ =>
      .part (Expr.truthful_lowerBound ..) fun _ => (Expr.truthful_lowerBound ..).done _
  · trivial
  · trivial

/-! ## Statements -/

theorem truthful_assignForm (pos : Position) (target value : Expr) :
    Truthful [] (assignForm env scope pos target value) := by
  unfold assignForm
  split
  · exact (value.truthful_lower ..).done _
  · exact .part (Expr.truthful_lower ..) fun _ =>
      .part (Index.truthful_lowerTarget ..) fun _ => (value.truthful_lower ..).done _
  · trivial

theorem truthful_augmentForm (pos : Position) (target : Expr) (op : BinaryOperator)
    (value : Expr) : Truthful [] (augmentForm env scope pos target op value) := by
  unfold augmentForm
  split
  · split
    · exact (value.truthful_lower ..).done _
    · trivial
  · trivial

theorem truthful_returnForm (pos : Position) (value : Option Expr) (last : Bool) :
    Truthful [⟨pos, last⟩] (returnForm env scope pos value last) := by
  cases last with
  | false => exact ⟨_, List.mem_singleton_self _, rfl, rfl⟩
  | true =>
    have terminal : ∀ ir : Ir, Truthful [⟨pos, true⟩] (pure ir) := by
      intro ir site found
      rw [List.mem_singleton.mp found]
    cases value with
    | none => exact terminal _
    | some value =>
      have := (value.truthful_lower env scope 0).part terminal
      rwa [bind_pure] at this

theorem truthful_exprForm (pos : Position) (values : List Expr) :
    Truthful [] (exprForm env scope pos values) := by
  unfold exprForm
  split
  · exact (Expr.truthful_lower ..).done _
  · trivial

mutual

/-- What compiling a statement gives is true of the returns in it. -/
theorem Stmt.truthful_form (allow : Bool) : ∀ (stmt : Stmt) (scope : Scope),
    Truthful (stmt.returns allow) (stmt.form env scope allow)
  | .function pos definition, scope => by
    rw [Stmt.form_function]
    trivial
  | .assign pos target value, scope => by
    rw [Stmt.form_assign]
    exact truthful_assignForm ..
  | .augment pos target op value, scope => by
    rw [Stmt.form_augment]
    exact truthful_augmentForm ..
  | .branch pos test body orelse, scope => by
    rw [Stmt.form_branch]
    exact .part (test.truthful_lower ..) fun _ =>
      (Stmt.truthful_forms allow body scope).bind fun _ =>
        (Stmt.truthful_forms allow orelse _).done _
  | .whileLoop pos test body orelse, scope => by
    rw [Stmt.form_whileLoop]
    cases orelse with
    | cons => trivial
    | nil =>
      rw [Stmt.returns, Stmt.returnsIn, List.append_nil]
      exact .part (test.truthful_lower ..) fun _ => (Stmt.truthful_forms false body scope).done _
  | .forLoop pos target iter body orelse, scope => by
    rw [Stmt.form_forLoop]
    cases orelse with
    | cons => trivial
    | nil =>
      exact .part (target.truthful_lower ..) fun _ =>
        (Stmt.truthful_forms false body scope).bind fun _ => (iter.truthful_lower ..).done _
  | .ret pos value, scope => by
    rw [Stmt.form_ret]
    exact truthful_returnForm ..
  | .expr pos values, scope => by
    rw [Stmt.form_expr]
    exact truthful_exprForm ..
  | .unknown pos kind, scope => by
    rw [Stmt.form_unknown]
    trivial

theorem Stmt.truthful_forms (allow : Bool) : ∀ (stmts : List Stmt) (scope : Scope),
    Truthful (Stmt.returnsIn allow stmts) (Stmt.forms env scope allow stmts)
  | [], scope => by
    rw [Stmt.forms_nil]
    exact .ok _
  | stmt :: rest, scope => by
    rw [Stmt.forms_cons, Stmt.returnsIn_cons]
    exact (Stmt.truthful_form _ stmt scope).bind fun _ =>
      (Stmt.truthful_forms allow rest _).done _

end

mutual

/-- If nothing but its returns can keep a statement from compiling, then they decide. -/
theorem Stmt.decided_form (allow : Bool) : ∀ (stmt : Stmt) (scope : Scope) (ir : Ir),
    stmt.withoutReturns.form env scope allow = .ok ir →
      Decided (stmt.returns allow) (stmt.form env scope allow)
  | .function pos (.mk name params body place), scope, ir, h => by
    rw [Stmt.withoutReturns, Stmt.form_function] at h
    cases h
  | .assign .., scope, ir, h => ⟨ir, h⟩
  | .augment .., scope, ir, h => ⟨ir, h⟩
  | .branch pos test body orelse, scope, ir, h => by
    rw [Stmt.withoutReturns, Stmt.form_branch] at h
    obtain ⟨test', htest, h⟩ := bind_eq_ok.mp h
    obtain ⟨first, hfirst, h⟩ := bind_eq_ok.mp h
    obtain ⟨second, hsecond, h⟩ := bind_eq_ok.mp h
    rw [Stmt.assignedIn_withoutReturnsIn] at hsecond
    rw [Stmt.form_branch, htest]
    exact (Stmt.decided_forms allow body _ _ hfirst).bind fun _ =>
      (Stmt.decided_forms allow orelse _ _ hsecond).done _
  | .whileLoop pos test body orelse, scope, ir, h => by
    rw [Stmt.withoutReturns, Stmt.form_whileLoop, Stmt.isEmpty_withoutReturnsIn] at h
    rw [Stmt.form_whileLoop]
    cases orelse with
    | cons => cases h
    | nil =>
      obtain ⟨test', htest, h⟩ := bind_eq_ok.mp h
      obtain ⟨inner, hinner, h⟩ := bind_eq_ok.mp h
      rw [htest, Stmt.returns, Stmt.returnsIn, List.append_nil]
      exact (Stmt.decided_forms false body _ _ hinner).done _
  | .forLoop pos target iter body orelse, scope, ir, h => by
    rw [Stmt.withoutReturns, Stmt.form_forLoop, Stmt.isEmpty_withoutReturnsIn] at h
    rw [Stmt.form_forLoop]
    cases orelse with
    | cons => cases h
    | nil =>
      obtain ⟨item, hitem, h⟩ := bind_eq_ok.mp h
      obtain ⟨inner, hinner, h⟩ := bind_eq_ok.mp h
      obtain ⟨iterable, hiterable, h⟩ := bind_eq_ok.mp h
      rw [Stmt.assignedIn_withoutReturnsIn] at hiterable
      rw [hitem, hiterable, Stmt.returns, Stmt.returnsIn, List.append_nil]
      exact (Stmt.decided_forms false body _ _ hinner).done _
  | .ret pos value, scope, ir, h => by
    rw [Stmt.form_ret]
    cases allow with
    | false => rfl
    | true =>
      cases value with
      | none => exact ⟨_, rfl⟩
      | some value =>
        rw [Stmt.withoutReturns, Stmt.form_expr] at h
        obtain ⟨value', hvalue, _⟩ := bind_eq_ok.mp h
        exact ⟨value', hvalue⟩
  | .expr .., scope, ir, h => ⟨ir, h⟩
  | .unknown .., scope, ir, h => ⟨ir, h⟩

theorem Stmt.decided_forms (allow : Bool) : ∀ (stmts : List Stmt) (scope : Scope) (irs : List Ir),
    Stmt.forms env scope allow (Stmt.withoutReturnsIn stmts) = .ok irs →
      Decided (Stmt.returnsIn allow stmts) (Stmt.forms env scope allow stmts)
  | [], scope, irs, h => ⟨irs, h⟩
  | stmt :: rest, scope, irs, h => by
    rw [Stmt.withoutReturnsIn, Stmt.forms_cons, Stmt.isEmpty_withoutReturnsIn,
      Stmt.assigned_withoutReturns] at h
    obtain ⟨first, hfirst, h⟩ := bind_eq_ok.mp h
    obtain ⟨others, hothers, h⟩ := bind_eq_ok.mp h
    rw [Stmt.forms_cons, Stmt.returnsIn_cons]
    exact (Stmt.decided_form _ stmt _ _ hfirst).bind fun _ =>
      (Stmt.decided_forms allow rest _ _ hothers).done _

end

/-! ## The laws -/

/-- A function that compiles has only terminal returns, and one that is refused for a misplaced
return has one on the line it is told. If a function compiles once its returns are plain
expressions, then it compiles itself if all its returns are terminal, and otherwise is refused
for the first one that is not. -/
theorem a_function_returns_only_where_nothing_follows (env : Environment)
    (definition : FunctionDef) :
    (∀ ir, definition.compile env = .ok ir →
        ∀ site ∈ definition.returns, site.terminal = true) ∧
      (∀ line, definition.compile env = .error (.misplacedReturn line) →
        ∃ site ∈ definition.returns, site.terminal = false ∧ site.pos.line = line) ∧
      ∀ ir, definition.withoutReturns.compile env = .ok ir →
        ((∀ site ∈ definition.returns, site.terminal = true) →
          ∃ ir', definition.compile env = .ok ir') ∧
        ∀ site, definition.returns.find? (!·.terminal) = some site →
          definition.compile env = .error (.misplacedReturn site.pos.line) := by
  have truthful : Truthful definition.returns (definition.compile env) := by
    rw [FunctionDef.compile_eq]
    exact (Stmt.truthful_forms env true definition.body _).done _
  refine ⟨?_, ?_, ?_⟩
  · intro ir h
    rw [h] at truthful
    exact truthful
  · intro line h
    rw [h] at truthful
    exact truthful
  · intro ir h
    have decided : Decided definition.returns (definition.compile env) := by
      obtain ⟨name, params, body, pos⟩ := definition
      rw [FunctionDef.compile_eq] at h ⊢
      obtain ⟨forms, hforms, _⟩ := bind_eq_ok.mp h
      exact (Stmt.decided_forms env true body _ _ hforms).done _
    unfold Decided at decided
    constructor
    · intro terminal
      have none : definition.returns.find? (!·.terminal) = none := by
        rw [List.find?_eq_none]
        intro site found
        simp [terminal site found]
      rw [none] at decided
      exact decided
    · intro site first
      rw [first] at decided
      exact decided

/-- A function that returns from both branches of its last statement, and one that returns inside
a loop before it: `def f(a): if a: return a; else: return 1` and
`def g(a): while a: return 2; return a`, a line each. -/
def FunctionDef.returning (looping : Bool) : FunctionDef :=
  let name (line column : UInt32) (id : String) : Expr := .name ⟨line, column⟩ id
  let number (line column : UInt32) (value : Int64) : Expr := .number ⟨line, column⟩ (.int value)
  if looping then
    .mk "g" [⟨"a", ⟨1, 6⟩⟩]
      [.whileLoop ⟨2, 4⟩ (name 2 10 "a") [.ret ⟨3, 8⟩ (number 3 15 2)] [],
        .ret ⟨4, 4⟩ (name 4 11 "a")] ⟨1, 0⟩
  else
    .mk "f" [⟨"a", ⟨1, 6⟩⟩]
      [.branch ⟨2, 4⟩ (name 2 7 "a") [.ret ⟨3, 8⟩ (name 3 15 "a")]
        [.ret ⟨5, 8⟩ (number 5 15 1)]] ⟨1, 0⟩

theorem a_return_inside_a_loop_is_refused :
    (∃ ir, (FunctionDef.returning false).compile {} = .ok ir) ∧
      (FunctionDef.returning true).compile {} = .error (.misplacedReturn 3) := by
  have branching :=
    (a_function_returns_only_where_nothing_follows {} (.returning false)).2.2 _ rfl
  have looping := (a_function_returns_only_where_nothing_follows {} (.returning true)).2.2 _ rfl
  refine ⟨?_, ?_⟩
  · refine branching.1 ?_
    decide
  · exact looping.2 ⟨⟨3, 8⟩, false⟩ rfl

end CallForm
