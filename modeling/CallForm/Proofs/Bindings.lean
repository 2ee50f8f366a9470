-- The laws of definitions and stores: of the assignments to one name the
-- first one defines it and all others store to it, a parameter is only ever
-- stored to, and nothing but the assignments to names has a say in it.
import Mathlib.Data.List.Forall2
import CallForm.Proofs.Body

namespace CallForm

/-! ## Where an assignment went -/

/-- The compiled forms of statements in a place that holds one, as `blockOf` put them there. -/
def itemsOf : List Stmt → Ir → List Ir
  | [_], single => [single]
  | _, .call _ items => items
  | _, _ => []

mutual

/-- The parts of the compiled form of a statement that its assignments to names became, in
source order. Statement and form are walked side by side. -/
def Stmt.assignmentForms : Stmt → Ir → List Ir
  | .assign _ (.name ..) _, form => [form]
  | .branch _ _ body orelse, .call _ [_, first, second] =>
    Stmt.assignmentFormsIn body (itemsOf body first) ++
      Stmt.assignmentFormsIn orelse (itemsOf orelse second)
  | .whileLoop _ _ body _, .call _ [_, inner] => Stmt.assignmentFormsIn body (itemsOf body inner)
  | .forLoop _ _ _ body _, .call _ [.call _ [_, .call _ items], _] =>
    Stmt.assignmentFormsIn body items
  | _, _ => []

/-- The parts of the compiled forms of statements that their assignments to names became. -/
def Stmt.assignmentFormsIn : List Stmt → List Ir → List Ir
  | stmt :: rest, form :: others => stmt.assignmentForms form ++ Stmt.assignmentFormsIn rest others
  | _, _ => []

end

/-- The parts of the compiled form of a function that its assignments to names became, in source
order. -/
def FunctionDef.assignmentForms (definition : FunctionDef) : Ir → List Ir
  | .call _ args =>
    match args.getLast? with
    | some inner => Stmt.assignmentFormsIn definition.body (itemsOf definition.body inner)
    | none => []
  | _ => []

/-- The name in front of the arguments of a call. -/
def Ir.headName : Ir → String
  | .call head _ => head.name
  | _ => ""

/-- The primitives that the assignments to `name` became, in source order. -/
def FunctionDef.bindingsOf (definition : FunctionDef) (ir : Ir) (name : String) : List String :=
  ((Stmt.assignmentsIn definition.body).zip (definition.assignmentForms ir)).filterMap
    fun (assignment, form) => if assignment.name = name then some form.headName else none

@[simp] theorem itemsOf_blockOf {body : List Stmt} {items : List Ir} (pos : Position)
    (h : items.length = body.length) : itemsOf body (blockOf pos items) = items := by
  match body, items, h with
  | [], [], _ => rfl
  | [_], [_], _ => rfl
  | _ :: _ :: _, _ :: _ :: _, _ => rfl

theorem length_forms {env : Environment} {scope : Scope} {allow : Bool} {stmts : List Stmt}
    {irs : List Ir} (h : Stmt.forms env scope allow stmts = .ok irs) :
    irs.length = stmts.length := by
  induction stmts generalizing scope irs with
  | nil =>
    rw [Stmt.forms_nil] at h
    cases h
    rfl
  | cons stmt rest ih =>
    rw [Stmt.forms_cons] at h
    obtain ⟨_, _, h⟩ := bind_eq_ok.mp h
    obtain ⟨others, hothers, h⟩ := bind_eq_ok.mp h
    cases h
    simp [ih hothers]

/-! ## The record of the assignments -/

/-- A form is what an assignment becomes where the names of `scope` are bound. -/
def NameAssignment.Becomes (assignment : NameAssignment) (scope : Scope) (form : Ir) : Prop :=
  ∃ value, form = Ir.taggedCall assignment.pos (scope.bindingOf assignment.name).primitive
    [Ir.tagged assignment.place assignment.name, value]

/-- Forms are what assignments become one after another, each one where the names of `scope` and
of the assignments before it are bound. -/
inductive Recorded : Scope → List NameAssignment → List Ir → Prop
  | nil {scope : Scope} : Recorded scope [] []
  | cons {scope : Scope} {assignment : NameAssignment} {form : Ir}
      {rest : List NameAssignment} {forms : List Ir} :
      assignment.Becomes scope form → Recorded (scope.bind assignment.name) rest forms →
        Recorded scope (assignment :: rest) (form :: forms)

theorem Recorded.append {scope : Scope} {first second : List NameAssignment}
    {forms others : List Ir} (h : Recorded scope first forms)
    (h' : Recorded (scope.bindAll (first.map (·.name))) second others) :
    Recorded scope (first ++ second) (forms ++ others) := by
  induction h with
  | nil => exact h'
  | cons becomes _ ih => exact .cons becomes (ih h')

variable {env : Environment}

mutual

/-- One statement: its assignments are recorded in the scope in which it stands. -/
theorem recorded_of_form (allow : Bool) :
    ∀ (stmt : Stmt) (scope : Scope) (ir : Ir), stmt.form env scope allow = .ok ir →
      Recorded scope stmt.assignments (stmt.assignmentForms ir)
  | .assign pos target value, scope, ir, h => by
    rw [Stmt.form_assign] at h
    cases target with
    | name place id =>
      obtain ⟨value, _, h⟩ := bind_eq_ok.mp h
      cases h
      exact .cons ⟨value, rfl⟩ .nil
    | _ => exact .nil
  | .branch pos test body orelse, scope, ir, h => by
    rw [Stmt.form_branch] at h
    obtain ⟨test, _, h⟩ := bind_eq_ok.mp h
    obtain ⟨first, hfirst, h⟩ := bind_eq_ok.mp h
    obtain ⟨second, hsecond, h⟩ := bind_eq_ok.mp h
    cases h
    simp only [Stmt.assignments, Stmt.assignmentForms, Ir.taggedCall,
      itemsOf_blockOf pos (length_forms hfirst), itemsOf_blockOf pos (length_forms hsecond)]
    exact (recorded_of_forms allow body scope first hfirst).append
      (recorded_of_forms allow orelse _ second hsecond)
  | .whileLoop pos test body orelse, scope, ir, h => by
    rw [Stmt.form_whileLoop] at h
    split at h
    · obtain ⟨test, _, h⟩ := bind_eq_ok.mp h
      obtain ⟨inner, hinner, h⟩ := bind_eq_ok.mp h
      cases h
      simp only [Stmt.assignments, Stmt.assignmentForms, Ir.taggedCall,
        itemsOf_blockOf pos (length_forms hinner)]
      exact recorded_of_forms false body scope inner hinner
    · cases h
  | .forLoop pos target iter body orelse, scope, ir, h => by
    rw [Stmt.form_forLoop] at h
    split at h
    · obtain ⟨item, _, h⟩ := bind_eq_ok.mp h
      obtain ⟨inner, hinner, h⟩ := bind_eq_ok.mp h
      obtain ⟨iterable, _, h⟩ := bind_eq_ok.mp h
      cases h
      exact recorded_of_forms false body scope inner hinner
    · cases h
  | .function .., _, _, _ => .nil
  | .augment .., _, _, _ => .nil
  | .ret .., _, _, _ => .nil
  | .expr .., _, _, _ => .nil
  | .unknown .., _, _, _ => .nil

/-- A run of statements: each one is recorded where those before it have bound their names. -/
theorem recorded_of_forms (allow : Bool) :
    ∀ (stmts : List Stmt) (scope : Scope) (irs : List Ir),
      Stmt.forms env scope allow stmts = .ok irs →
        Recorded scope (Stmt.assignmentsIn stmts) (Stmt.assignmentFormsIn stmts irs)
  | [], _, _, _ => .nil
  | stmt :: rest, scope, irs, h => by
    rw [Stmt.forms_cons] at h
    obtain ⟨first, hfirst, h⟩ := bind_eq_ok.mp h
    obtain ⟨others, hothers, h⟩ := bind_eq_ok.mp h
    cases h
    exact (recorded_of_form _ stmt scope first hfirst).append
      (recorded_of_forms allow rest _ others hothers)

end

theorem recorded_of_compile {definition : FunctionDef} {ir : Ir}
    (h : definition.compile env = .ok ir) :
    Recorded (.ofParams (definition.params.map (·.name))) (Stmt.assignmentsIn definition.body)
      (definition.assignmentForms ir) := by
  rw [FunctionDef.compile_eq] at h
  obtain ⟨body, hbody, h⟩ := bind_eq_ok.mp h
  cases h
  have last : definition.assignmentForms (definition.defineOf body) =
      Stmt.assignmentFormsIn definition.body
        (itemsOf definition.body (blockOf definition.pos body)) := by
    simp only [FunctionDef.assignmentForms, FunctionDef.defineOf, Ir.taggedCall,
      List.getLast?_concat]
  rw [last, itemsOf_blockOf _ (length_forms hbody)]
  exact recorded_of_forms true definition.body _ body hbody

/-! ## The laws of a record -/

/-- What assignments to names do one after another. -/
def Scope.bindingsOf (scope : Scope) : List String → List Binding
  | [] => []
  | name :: rest => scope.bindingOf name :: (scope.bind name).bindingsOf rest

theorem NameAssignment.Becomes.headName {assignment : NameAssignment} {scope : Scope} {form : Ir}
    (h : assignment.Becomes scope form) :
    form.headName = (scope.bindingOf assignment.name).primitive := by
  obtain ⟨value, rfl⟩ := h
  rfl

theorem Recorded.headNames {scope : Scope} {assignments : List NameAssignment} {forms : List Ir}
    (h : Recorded scope assignments forms) :
    forms.map Ir.headName =
      (scope.bindingsOf (assignments.map (·.name))).map Binding.primitive := by
  induction h with
  | nil => rfl
  | cons becomes _ ih => simp [Scope.bindingsOf, becomes.headName, ih]

theorem Recorded.forall₂ {scope : Scope} {assignments : List NameAssignment} {forms : List Ir}
    (h : Recorded scope assignments forms) :
    List.Forall₂
      (fun (assignment : NameAssignment) form => ∃ (binding : Binding) (value : Ir),
        form = Ir.taggedCall assignment.pos binding.primitive
          [Ir.tagged assignment.place assignment.name, value])
      assignments forms := by
  induction h with
  | nil => exact .nil
  | cons becomes _ ih =>
    obtain ⟨value, rfl⟩ := becomes
    exact .cons ⟨_, value, rfl⟩ ih

/-- In a record of a scope that binds `name` every assignment to it is a store. In any other one
only the first is not, and that one is a definition. -/
theorem Recorded.of_name {scope : Scope} {assignments : List NameAssignment} {forms : List Ir}
    (h : Recorded scope assignments forms) (name : String) :
    (assignments.zip forms).filterMap (fun (assignment, form) =>
        if assignment.name = name then some form.headName else none) =
      if scope.isBound name then
        List.replicate ((assignments.map (·.name)).count name) Primitive.store
      else
        match (assignments.map (·.name)).count name with
        | 0 => []
        | later + 1 => Primitive.define :: List.replicate later Primitive.store := by
  induction h with
  | nil => simp
  | @cons scope assignment form rest forms becomes _ ih =>
    rw [List.zip_cons_cons, List.filterMap_cons]
    by_cases same : assignment.name = name
    · subst same
      simp only [ih, ↓reduceIte, Scope.isBound_bind, decide_true, Bool.true_or, becomes.headName,
        List.map_cons, List.count_cons_self]
      cases bound : scope.isBound assignment.name with
      | true => simp [Scope.bindingOf, bound, Binding.primitive, List.replicate_succ]
      | false => simp [Scope.bindingOf, bound, Binding.primitive]
    · have apart : ¬ name = assignment.name := fun h => same h.symm
      simp only [ih, same, ↓reduceIte, Scope.isBound_bind, apart, decide_false, Bool.false_or,
        List.map_cons, List.count_cons_of_ne same]

theorem Scope.isBound_ofParams (names : List String) (name : String) :
    (Scope.ofParams names).isBound name = decide (name ∈ names) := by
  change (Scope.empty.bindAll names).isBound name = _
  rw [Scope.isBound_bindAll]
  simp [Scope.isBound, Scope.empty]

/-! ## The laws -/

/-- In a function that compiles every assignment to a name becomes a definition or a store of that
name. Of the assignments to a name that is no parameter exactly the first one defines, those to
a parameter all store. Two functions with the same parameters and the same assigned names take
the same decisions, whatever else they hold and in whatever environment they stand. -/
theorem the_first_assignment_defines_and_the_others_store (env : Environment)
    (definition : FunctionDef) (ir : Ir) (h : definition.compile env = .ok ir) :
    List.Forall₂
        (fun (assignment : NameAssignment) form => ∃ (binding : Binding) (value : Ir),
          form = Ir.taggedCall assignment.pos binding.primitive
            [Ir.tagged assignment.place assignment.name, value])
        (Stmt.assignmentsIn definition.body) (definition.assignmentForms ir) ∧
      (∀ name, definition.bindingsOf ir name =
        if name ∈ definition.params.map (·.name) then
          List.replicate ((Stmt.assignedIn definition.body).count name) Primitive.store
        else
          match (Stmt.assignedIn definition.body).count name with
          | 0 => []
          | later + 1 => Primitive.define :: List.replicate later Primitive.store) ∧
      ∀ (env' : Environment) (definition' : FunctionDef) (ir' : Ir),
        definition'.compile env' = .ok ir' →
        definition'.params.map (·.name) = definition.params.map (·.name) →
        Stmt.assignedIn definition'.body = Stmt.assignedIn definition.body →
          (definition'.assignmentForms ir').map Ir.headName =
            (definition.assignmentForms ir).map Ir.headName := by
  have recorded := recorded_of_compile h
  refine ⟨?_, ?_, ?_⟩
  · exact recorded.forall₂
  · intro name
    have found := recorded.of_name name
    simp only [Scope.isBound_ofParams, decide_eq_true_eq] at found
    exact found
  · intro env' definition' ir' h' params assigned
    rw [(recorded_of_compile h').headNames, recorded.headNames, params]
    exact congrArg _ (congrArg _ assigned)

/-- A function that assigns `x` before a branch and inside it, and its parameter after it:
`def f(a): x = a; if a: x = a; else: y = x; a = x`, a line each. -/
def FunctionDef.reassigning : FunctionDef :=
  let name (line column : UInt32) (id : String) : Expr := .name ⟨line, column⟩ id
  .mk "f" [⟨"a", ⟨1, 6⟩⟩]
    [.assign ⟨2, 4⟩ (name 2 4 "x") (name 2 8 "a"),
      .branch ⟨3, 4⟩ (name 3 7 "a")
        [.assign ⟨4, 8⟩ (name 4 8 "x") (name 4 12 "a")]
        [.assign ⟨6, 8⟩ (name 6 8 "y") (name 6 12 "x")],
      .assign ⟨7, 4⟩ (name 7 4 "a") (name 7 8 "x")] ⟨1, 0⟩

theorem a_branch_stores_what_was_defined_before_it :
    ∃ ir, FunctionDef.reassigning.compile {} = .ok ir ∧
      FunctionDef.reassigning.bindingsOf ir "x" = ["define", "store"] ∧
      FunctionDef.reassigning.bindingsOf ir "a" = ["store"] := by
  refine ⟨_, rfl, ?_, ?_⟩
  · rw [(the_first_assignment_defines_and_the_others_store {} .reassigning _ rfl).2.1]
    rfl
  · rw [(the_first_assignment_defines_and_the_others_store {} .reassigning _ rfl).2.1]
    rfl

end CallForm
