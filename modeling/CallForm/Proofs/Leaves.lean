-- The statements without a body, one after another. Each compiles where
-- those before it have bound their names, and their forms stand in source
-- order in the compiled form of the function.
import CallForm.Proofs.Bindings
import CallForm.Proofs.Emission

namespace CallForm

/-! ## Statements without a body -/

mutual

/-- The statements without a body in a statement, in source order. -/
def Stmt.leaves : Stmt → List Stmt
  | .branch _ _ body orelse => Stmt.leavesIn body ++ Stmt.leavesIn orelse
  | .whileLoop _ _ body _ => Stmt.leavesIn body
  | .forLoop _ _ _ body _ => Stmt.leavesIn body
  | stmt => [stmt]

/-- The statements without a body in statements, in source order. -/
def Stmt.leavesIn : List Stmt → List Stmt
  | [] => []
  | stmt :: rest => stmt.leaves ++ Stmt.leavesIn rest

end

mutual

/-- The parts of the compiled form of a statement that its statements without a body became, in
source order. Statement and form are walked side by side. -/
def Stmt.leafForms : Stmt → Ir → List Ir
  | .branch _ _ body orelse, .call _ [_, first, second] =>
    Stmt.leafFormsIn body (itemsOf body first) ++
      Stmt.leafFormsIn orelse (itemsOf orelse second)
  | .whileLoop _ _ body _, .call _ [_, inner] => Stmt.leafFormsIn body (itemsOf body inner)
  | .forLoop _ _ _ body _, .call _ [.call _ [_, .call _ items], _] => Stmt.leafFormsIn body items
  | _, form => [form]

/-- The parts of the compiled forms of statements that those without a body became. -/
def Stmt.leafFormsIn : List Stmt → List Ir → List Ir
  | stmt :: rest, form :: others => stmt.leafForms form ++ Stmt.leafFormsIn rest others
  | _, _ => []

end

/-- The parts of the compiled form of a function that its statements without a body became, in
source order. -/
def FunctionDef.leafForms (definition : FunctionDef) : Ir → List Ir
  | .call _ args =>
    match args.getLast? with
    | some inner => Stmt.leafFormsIn definition.body (itemsOf definition.body inner)
    | none => []
  | _ => []

/-- The name that a statement assigns itself, if it assigns one. -/
def Stmt.target? : Stmt → Option String
  | .assign _ (.name _ id) _ => some id
  | _ => none

/-- Forms are what statements compile to one after another, each one where the names of `scope` and
the names that those before it assign are bound. -/
inductive CompiledInRow (env : Environment) : Scope → List Stmt → List Ir → Prop
  | nil {scope : Scope} : CompiledInRow env scope [] []
  | cons {scope : Scope} {stmt : Stmt} {allow : Bool} {form : Ir} {rest : List Stmt}
      {forms : List Ir} : stmt.form env scope allow = .ok form →
      CompiledInRow env (scope.bindAll stmt.target?.toList) rest forms →
        CompiledInRow env scope (stmt :: rest) (form :: forms)

section

variable {env : Environment}

theorem CompiledInRow.append {scope : Scope} {first second : List Stmt} {forms others : List Ir}
    (h : CompiledInRow env scope first forms)
    (h' : CompiledInRow env (scope.bindAll (first.filterMap Stmt.target?)) second others) :
    CompiledInRow env scope (first ++ second) (forms ++ others) := by
  induction h with
  | nil => exact h'
  | @cons scope stmt allow form rest forms compiles _ ih =>
    refine .cons compiles (ih ?_)
    rw [Scope.bindAll_bindAll]
    cases found : stmt.target? <;> simpa [found] using h'

mutual

theorem Stmt.targets_leaves : ∀ stmt : Stmt,
    stmt.leaves.filterMap Stmt.target? = stmt.assigned
  | .branch _ _ body orelse => by
    rw [Stmt.leaves, List.filterMap_append, Stmt.targets_leavesIn body,
      Stmt.targets_leavesIn orelse]
    simp [Stmt.assignedIn, Stmt.assigned, Stmt.assignments]
  | .whileLoop _ _ body _ => Stmt.targets_leavesIn body
  | .forLoop _ _ _ body _ => Stmt.targets_leavesIn body
  | .assign _ target _ => by cases target <;> rfl
  | .function .. | .augment .. | .ret .. | .expr .. | .unknown .. => rfl

/-- What the statements without a body assign is all that is assigned. -/
theorem Stmt.targets_leavesIn : ∀ stmts : List Stmt,
    (Stmt.leavesIn stmts).filterMap Stmt.target? = Stmt.assignedIn stmts
  | [] => rfl
  | stmt :: rest => by
    rw [Stmt.leavesIn, List.filterMap_append, Stmt.targets_leaves stmt,
      Stmt.targets_leavesIn rest]
    simp [Stmt.assignedIn, Stmt.assignmentsIn, Stmt.assigned]

end

/-- A statement without a body is a row of its own. -/
theorem CompiledInRow.single {scope : Scope} {stmt : Stmt} {allow : Bool} {form : Ir}
    (h : stmt.form env scope allow = .ok form) : CompiledInRow env scope [stmt] [form] :=
  .cons h .nil

mutual

/-- One statement: its statements without a body compile in a row. -/
theorem Stmt.inRow_of_form (allow : Bool) : ∀ (stmt : Stmt) (scope : Scope) (ir : Ir),
    stmt.form env scope allow = .ok ir →
      CompiledInRow env scope stmt.leaves (stmt.leafForms ir)
  | .branch pos test body orelse, scope, ir, h => by
    rw [Stmt.form_branch] at h
    obtain ⟨test, _, h⟩ := bind_eq_ok.mp h
    obtain ⟨first, hfirst, h⟩ := bind_eq_ok.mp h
    obtain ⟨second, hsecond, h⟩ := bind_eq_ok.mp h
    cases h
    have bodyRow := Stmt.inRow_of_forms allow body scope first hfirst
    have orelseRow := Stmt.inRow_of_forms allow orelse _ second hsecond
    rw [← Stmt.targets_leavesIn] at orelseRow
    simp only [Stmt.leaves, Stmt.leafForms, Ir.taggedCall,
      itemsOf_blockOf pos (length_forms hfirst), itemsOf_blockOf pos (length_forms hsecond)]
    exact bodyRow.append orelseRow
  | .whileLoop pos test body orelse, scope, ir, h => by
    rw [Stmt.form_whileLoop] at h
    split at h
    · obtain ⟨test, _, h⟩ := bind_eq_ok.mp h
      obtain ⟨inner, hinner, h⟩ := bind_eq_ok.mp h
      cases h
      simp only [Stmt.leaves, Stmt.leafForms, Ir.taggedCall,
        itemsOf_blockOf pos (length_forms hinner)]
      exact Stmt.inRow_of_forms false body scope inner hinner
    · cases h
  | .forLoop pos target iter body orelse, scope, ir, h => by
    rw [Stmt.form_forLoop] at h
    split at h
    · obtain ⟨item, _, h⟩ := bind_eq_ok.mp h
      obtain ⟨inner, hinner, h⟩ := bind_eq_ok.mp h
      obtain ⟨iterable, _, h⟩ := bind_eq_ok.mp h
      cases h
      exact Stmt.inRow_of_forms false body scope inner hinner
    · cases h
  | .function .., _, _, h | .assign .., _, _, h | .augment .., _, _, h | .ret .., _, _, h
  | .expr .., _, _, h | .unknown .., _, _, h => .single h

/-- A run of statements: those without a body compile in a row. -/
theorem Stmt.inRow_of_forms (allow : Bool) :
    ∀ (stmts : List Stmt) (scope : Scope) (irs : List Ir),
      Stmt.forms env scope allow stmts = .ok irs →
        CompiledInRow env scope (Stmt.leavesIn stmts) (Stmt.leafFormsIn stmts irs)
  | [], _, _, _ => .nil
  | stmt :: rest, scope, irs, h => by
    rw [Stmt.forms_cons] at h
    obtain ⟨first, hfirst, h⟩ := bind_eq_ok.mp h
    obtain ⟨others, hothers, h⟩ := bind_eq_ok.mp h
    cases h
    have firstRow := Stmt.inRow_of_form _ stmt scope first hfirst
    have restRow := Stmt.inRow_of_forms allow rest _ others hothers
    rw [← Stmt.targets_leaves] at restRow
    exact firstRow.append restRow

end

/-- The statements without a body of a function compile in a row, after its parameters are
bound. -/
theorem FunctionDef.inRow_of_compile {definition : FunctionDef} {ir : Ir}
    (h : definition.compile env = .ok ir) :
    CompiledInRow env definition.start (Stmt.leavesIn definition.body)
      (definition.leafForms ir) := by
  rw [FunctionDef.compile_eq] at h
  obtain ⟨body, hbody, h⟩ := bind_eq_ok.mp h
  cases h
  have last : definition.leafForms (definition.defineOf body) =
      Stmt.leafFormsIn definition.body
        (itemsOf definition.body (blockOf definition.pos body)) := by
    simp only [FunctionDef.leafForms, FunctionDef.defineOf, Ir.taggedCall, List.getLast?_concat]
  rw [last, itemsOf_blockOf _ (length_forms hbody)]
  exact Stmt.inRow_of_forms true definition.body _ body hbody

theorem CompiledInRow.forall₂ {scope : Scope} {stmts : List Stmt} {forms : List Ir}
    (h : CompiledInRow env scope stmts forms) :
    List.Forall₂ (fun stmt form => ∃ scope allow, stmt.form env scope allow = .ok form)
      stmts forms := by
  induction h with
  | nil => exact .nil
  | cons compiles _ ih => exact .cons ⟨_, _, compiles⟩ ih

end

/-! ## Where they stand in the text -/

theorem Ir.single_sublist_parts (form : Ir) : [form].Sublist form.parts := by
  rw [Ir.parts_eq]
  exact List.singleton_sublist.mpr List.mem_cons_self

theorem Ir.partsIn_sublist {forms others : List Ir} (h : forms.Sublist others) :
    (Ir.partsIn forms).Sublist (Ir.partsIn others) := by
  induction h with
  | slnil => exact List.nil_sublist _
  | cons form _ ih => exact ih.trans (List.sublist_append_right _ _)
  | cons_cons form _ ih => exact (List.Sublist.refl _).append ih

/-- What stands in some arguments of a call stands in the same order in the call. -/
theorem Ir.args_sublist_parts (head : Symbol) {forms args : List Ir} (h : forms.Sublist args) :
    (Ir.partsIn forms).Sublist (Ir.call head args).parts :=
  (Ir.partsIn_sublist h).trans (List.sublist_cons_self _ _)

theorem Ir.arg_sublist_parts (head : Symbol) {form : Ir} {args : List Ir} (h : form ∈ args) :
    form.parts.Sublist (Ir.call head args).parts := by
  have single := Ir.args_sublist_parts head (List.singleton_sublist.mpr h)
  rwa [Ir.partsIn, Ir.partsIn, List.append_nil] at single

/-- What stands in a block stands in the same order in the form that holds the block. -/
theorem itemsOf_sublist (body : List Stmt) (inner : Ir) :
    (Ir.partsIn (itemsOf body inner)).Sublist inner.parts := by
  unfold itemsOf
  split
  · simp [Ir.partsIn]
  · exact Ir.args_sublist_parts _ (.refl _)
  · exact List.nil_sublist _

mutual

/-- The forms of the statements without a body stand in source order in the form of the whole. -/
theorem Stmt.leafForms_sublist : ∀ (stmt : Stmt) (ir : Ir),
    (stmt.leafForms ir).Sublist ir.parts
  | .branch _ _ body orelse, ir => by
    rw [Stmt.leafForms.eq_def]
    split <;> try contradiction
    · rename_i head test first second same
      cases same
      have bodyStands := (Stmt.leafFormsIn_sublist body _).trans (itemsOf_sublist body first)
      have orelseStands := (Stmt.leafFormsIn_sublist orelse _).trans (itemsOf_sublist orelse second)
      have branches : (Ir.partsIn [first, second]).Sublist
          (Ir.call head [test, first, second]).parts :=
        Ir.args_sublist_parts head (List.sublist_cons_self _ _)
      rw [Ir.partsIn, Ir.partsIn, Ir.partsIn, List.append_nil] at branches
      exact (bodyStands.append orelseStands).trans branches
    · exact Ir.single_sublist_parts _
  | .whileLoop _ _ body _, ir => by
    rw [Stmt.leafForms.eq_def]
    split <;> try contradiction
    · rename_i head test inner same
      cases same
      have stands := (Stmt.leafFormsIn_sublist body _).trans (itemsOf_sublist body inner)
      exact stands.trans (Ir.arg_sublist_parts head (by simp))
    · exact Ir.single_sublist_parts _
  | .forLoop _ _ _ body _, ir => by
    rw [Stmt.leafForms.eq_def]
    split <;> try contradiction
    · rename_i head closure item block items iterable same
      cases same
      have stands := (Stmt.leafFormsIn_sublist body items).trans
        (Ir.args_sublist_parts block (.refl items))
      have closed : (Stmt.leafFormsIn body items).Sublist
          (Ir.call closure [item, .call block items]).parts :=
        stands.trans (Ir.arg_sublist_parts closure (by simp))
      exact closed.trans (Ir.arg_sublist_parts head (by simp))
    · exact Ir.single_sublist_parts _
  | .function .., ir | .assign .., ir | .augment .., ir | .ret .., ir
  | .expr .., ir | .unknown .., ir => ir.single_sublist_parts

theorem Stmt.leafFormsIn_sublist : ∀ (stmts : List Stmt) (irs : List Ir),
    (Stmt.leafFormsIn stmts irs).Sublist (Ir.partsIn irs)
  | stmt :: rest, form :: others => by
    rw [Stmt.leafFormsIn, Ir.partsIn]
    exact (Stmt.leafForms_sublist stmt form).append (Stmt.leafFormsIn_sublist rest others)
  | [], _ | _ :: _, [] => List.nil_sublist _

end

theorem FunctionDef.leafForms_sublist (definition : FunctionDef) (ir : Ir) :
    (definition.leafForms ir).Sublist ir.parts := by
  unfold FunctionDef.leafForms
  split
  · split
    · rename_i args inner found
      have stands := (Stmt.leafFormsIn_sublist definition.body _).trans
        (itemsOf_sublist definition.body inner)
      exact stands.trans (Ir.arg_sublist_parts _ (List.mem_of_getLast? found))
    · exact List.nil_sublist _
  · exact List.nil_sublist _

end CallForm
