-- The order in which compiled form writes names. An assignment asks what is
-- bound and an increment does not, so a name is stored before it is defined
-- exactly if it is incremented before it is assigned.
import CallForm.Proofs.Leaves

namespace CallForm

/-! ## Writes -/

/-- A name that compiled form gives a value, and the primitive that does it. -/
structure NameWrite where
  primitive : String
  name : String
deriving Repr, DecidableEq

/-- What an assignment to a name or an increment of one writes, as its compiled form has it. -/
def Stmt.write? : Stmt → Ir → Option NameWrite
  | .assign _ (.name ..) _, .call head (.symbol target :: _)
  | .augment _ (.name ..) _ _, .call head (.symbol target :: _) => some ⟨head.name, target.name⟩
  | _, _ => none

/-- What the assignments to names and the increments of names in a function write, in the order in
which its compiled form has it. -/
def FunctionDef.writes (definition : FunctionDef) (ir : Ir) : List NameWrite :=
  ((Stmt.leavesIn definition.body).zip (definition.leafForms ir)).filterMap
    fun (stmt, form) => stmt.write? form

namespace Scope

/-- What a statement writes where the names of a scope are bound. An assignment asks the scope, an
increment does not. -/
def write? (scope : Scope) : Stmt → Option NameWrite
  | .assign _ (.name _ id) _ => some ⟨(scope.bindingOf id).primitive, id⟩
  | .augment _ (.name _ id) _ _ => some ⟨Primitive.store, id⟩
  | _ => none

/-- What statements without a body write one after another. -/
def writes (scope : Scope) : List Stmt → List NameWrite
  | [] => []
  | stmt :: rest => (scope.write? stmt).toList ++ (scope.bindAll stmt.target?.toList).writes rest

end Scope

theorem Stmt.write?_eq {env : Environment} {scope : Scope} {allow : Bool} {stmt : Stmt} {form : Ir}
    (h : stmt.form env scope allow = .ok form) : stmt.write? form = scope.write? stmt := by
  cases stmt with
  | assign pos target value =>
    rw [Stmt.form_assign] at h
    cases target with
    | name place id =>
      obtain ⟨value, _, h⟩ := bind_eq_ok.mp h
      cases h
      rfl
    | _ => rfl
  | augment pos target op value =>
    rw [Stmt.form_augment] at h
    cases target with
    | name place id =>
      unfold augmentForm at h
      split at h
      · obtain ⟨value, _, h⟩ := bind_eq_ok.mp h
        cases h
        rfl
      · cases h
    | _ => rfl
  | _ => rfl

theorem CompiledInRow.writes {env : Environment} {scope : Scope} {stmts : List Stmt}
    {forms : List Ir} (h : CompiledInRow env scope stmts forms) :
    ((stmts.zip forms).filterMap fun (stmt, form) => stmt.write? form) = scope.writes stmts := by
  induction h with
  | nil => rfl
  | @cons scope stmt _ form _ _ compiles _ ih =>
    rw [List.zip_cons_cons, List.filterMap_cons, ih]
    dsimp only
    rw [Stmt.write?_eq compiles, Scope.writes]
    cases scope.write? stmt <;> rfl

namespace Scope

theorem writes_append (scope : Scope) (stmts more : List Stmt) :
    scope.writes (stmts ++ more) =
      scope.writes stmts ++ (scope.bindAll (stmts.filterMap Stmt.target?)).writes more := by
  induction stmts generalizing scope with
  | nil => rfl
  | cons stmt rest ih =>
    rw [List.cons_append, writes, writes, ih, bindAll_bindAll, List.append_assoc]
    cases found : stmt.target? <;> simp [found]

/-- A write in a row is that of one statement, where those before it have bound their names. -/
theorem exists_of_writes_eq {scope : Scope} {stmts : List Stmt} {earlier later : List NameWrite}
    {write : NameWrite} (h : scope.writes stmts = earlier ++ write :: later) :
    ∃ before stmt after, stmts = before ++ stmt :: after ∧ scope.writes before = earlier ∧
      (scope.bindAll (before.filterMap Stmt.target?)).write? stmt = some write := by
  induction stmts generalizing scope earlier with
  | nil => simp [writes] at h
  | cons stmt rest ih =>
    -- A write behind the first statement is one of the rest, in the scope that the first leaves.
    have behind {front : List NameWrite}
        (tail : (scope.bindAll stmt.target?.toList).writes rest = front ++ write :: later) :
        ∃ before stmt' after, stmt :: rest = before ++ stmt' :: after ∧
          scope.writes before = (scope.write? stmt).toList ++ front ∧
          (scope.bindAll (before.filterMap Stmt.target?)).write? stmt' = some write := by
      obtain ⟨before, stmt', after, split, front, found⟩ := ih tail
      refine ⟨stmt :: before, stmt', after, by rw [split, List.cons_append], ?_, ?_⟩
      · rw [writes, front]
      · rw [bindAll_bindAll] at found
        cases target : stmt.target? <;> simpa [target] using found
    rw [writes] at h
    cases written : scope.write? stmt with
    | none =>
      rw [written] at h behind
      exact behind h
    | some first =>
      rw [written] at h behind
      cases earlier with
      | nil =>
        cases h
        exact ⟨[], stmt, rest, rfl, rfl, written⟩
      | cons other front =>
        obtain ⟨rfl, tail⟩ := List.cons.inj h
        exact behind tail

theorem exists_of_mem_writes {scope : Scope} {stmts : List Stmt} {write : NameWrite}
    (h : write ∈ scope.writes stmts) :
    ∃ before stmt after, stmts = before ++ stmt :: after ∧
      (scope.bindAll (before.filterMap Stmt.target?)).write? stmt = some write := by
  obtain ⟨earlier, later, split⟩ := List.append_of_mem h
  obtain ⟨before, stmt, after, same, _, found⟩ := exists_of_writes_eq split
  exact ⟨before, stmt, after, same, found⟩

/-- A name that is assigned and was not bound before is defined. -/
theorem define_mem_writes {scope : Scope} {stmts : List Stmt} {name : String}
    (unbound : scope.isBound name = false) (assigned : name ∈ stmts.filterMap Stmt.target?) :
    ⟨Primitive.define, name⟩ ∈ scope.writes stmts := by
  induction stmts generalizing scope with
  | nil => cases assigned
  | cons stmt rest ih =>
    rw [writes, List.mem_append]
    by_cases here : stmt.target? = some name
    · left
      unfold Stmt.target? at here
      split at here
      · cases here
        simp [write?, bindingOf, unbound, Binding.primitive]
      · cases here
    · right
      have still : (scope.bindAll stmt.target?.toList).isBound name = false := by
        rw [isBound_bindAll, unbound, Bool.or_false, decide_eq_false_iff_not,
          Option.mem_toList]
        exact here
      apply ih still
      rw [List.mem_filterMap] at assigned ⊢
      obtain ⟨other, listed, target⟩ := assigned
      rcases List.mem_cons.mp listed with rfl | listed
      · exact absurd target here
      · exact ⟨other, listed, target⟩

/-- Only an assignment to a name that is not bound defines it. -/
theorem target?_of_define {scope : Scope} {stmt : Stmt} {name : String}
    (h : scope.write? stmt = some ⟨Primitive.define, name⟩) :
    stmt.target? = some name ∧ scope.isBound name = false := by
  unfold write? at h
  split at h
  · rename_i id
    obtain ⟨primitive, rfl⟩ := NameWrite.mk.inj (Option.some.inj h)
    refine ⟨rfl, ?_⟩
    rw [Bool.eq_false_iff]
    intro bound
    rw [bindingOf, if_pos bound] at primitive
    exact absurd primitive (by decide)
  · exact absurd (NameWrite.mk.inj (Option.some.inj h)).1 (by decide)
  · cases h

/-- Only an increment stores to a name that is not bound. -/
theorem increment_of_store {scope : Scope} {stmt : Stmt} {name : String}
    (h : scope.write? stmt = some ⟨Primitive.store, name⟩) (unbound : scope.isBound name = false) :
    ∃ pos place op value, stmt = .augment pos (.name place name) op value := by
  unfold write? at h
  split at h
  · obtain ⟨primitive, rfl⟩ := NameWrite.mk.inj (Option.some.inj h)
    rw [bindingOf, if_neg (Bool.eq_false_iff.mp unbound)] at primitive
    exact absurd primitive (by decide)
  · cases h
    exact ⟨_, _, _, _, rfl⟩
  · cases h

end Scope

/-! ## The law -/

/-- Every store of a name that is no parameter comes after a definition of it, and no definition
after a store. -/
def DefinedFirst (params : List String) (writes : List NameWrite) : Prop :=
  ∀ earlier write later, writes = earlier ++ write :: later →
    (write.primitive = Primitive.store →
        write.name ∈ params ∨ ⟨Primitive.define, write.name⟩ ∈ earlier) ∧
      (write.primitive = Primitive.define → ⟨Primitive.store, write.name⟩ ∉ earlier)

/-- Every name that a statement increments is a parameter or assigned in front of it. -/
def IncrementsBound (params : List String) (stmts : List Stmt) : Prop :=
  ∀ earlier pos place name op value later,
    stmts = earlier ++ .augment pos (.name place name) op value :: later →
      name ∈ params ∨ name ∈ earlier.filterMap Stmt.target?

section

variable {params : List String} {stmts : List Stmt}

theorem isBound_behind (params : List String) (before : List Stmt) (name : String) :
    ((Scope.ofParams params).bindAll (before.filterMap Stmt.target?)).isBound name = true ↔
      name ∈ params ∨ name ∈ before.filterMap Stmt.target? := by
  rw [Scope.isBound_bindAll, Scope.isBound_ofParams, Bool.or_eq_true, decide_eq_true_eq,
    decide_eq_true_eq, or_comm]

/-- If every increment is of a bound name, then what is not bound is never stored to. -/
theorem IncrementsBound.isBound {before after : List Stmt} {stmt : Stmt} {name : String}
    (h : IncrementsBound params stmts) (split : stmts = before ++ stmt :: after)
    (stored : ((Scope.ofParams params).bindAll (before.filterMap Stmt.target?)).write? stmt =
      some ⟨Primitive.store, name⟩) :
    name ∈ params ∨ name ∈ before.filterMap Stmt.target? := by
  by_contra unbound
  rw [← isBound_behind, Bool.not_eq_true] at unbound
  obtain ⟨pos, place, op, value, rfl⟩ := Scope.increment_of_store stored unbound
  rw [Bool.eq_false_iff, ne_eq, isBound_behind] at unbound
  exact unbound (h before pos place name op value after split)

theorem DefinedFirst.of_increments (h : IncrementsBound params stmts) :
    DefinedFirst params ((Scope.ofParams params).writes stmts) := by
  intro earlier write later split
  obtain ⟨primitive, name⟩ := write
  obtain ⟨before, stmt, after, rfl, rfl, written⟩ := Scope.exists_of_writes_eq split
  constructor
  · rintro rfl
    rcases h.isBound rfl written with param | assigned
    · exact .inl param
    · by_cases param : name ∈ params
      · exact .inl param
      · have unbound : (Scope.ofParams params).isBound name = false := by
          rw [Scope.isBound_ofParams, decide_eq_false_iff_not]
          exact param
        exact .inr (Scope.define_mem_writes unbound assigned)
  · rintro rfl stored
    obtain ⟨-, unbound⟩ := Scope.target?_of_define written
    rw [Bool.eq_false_iff, ne_eq, isBound_behind] at unbound
    -- What is stored in front was bound there, and so is bound here.
    obtain ⟨first, stmt', middle, rfl, storing⟩ := Scope.exists_of_mem_writes stored
    rw [List.append_assoc, List.cons_append] at h
    rcases h.isBound rfl storing with param | assigned
    · exact unbound (.inl param)
    · rw [List.filterMap_append] at unbound
      exact unbound (.inr (List.mem_append_left _ assigned))

theorem IncrementsBound.of_definedFirst
    (h : DefinedFirst params ((Scope.ofParams params).writes stmts)) :
    IncrementsBound params stmts := by
  rintro earlier pos place name op value later rfl
  rw [Scope.writes_append] at h
  rcases (h _ ⟨Primitive.store, name⟩ _ rfl).1 rfl with param | defined
  · exact .inl param
  · obtain ⟨before, stmt, after, rfl, written⟩ := Scope.exists_of_mem_writes defined
    have target := (Scope.target?_of_define written).1
    exact .inr (List.mem_filterMap.mpr ⟨stmt, by simp, target⟩)

end

/-- The form of an increment of a name stores it, whatever is bound. -/
theorem CompiledInRow.increments {env : Environment} {scope : Scope} {stmts : List Stmt}
    {forms : List Ir} (h : CompiledInRow env scope stmts forms) {pos place : Position}
    {name : String} {op : BinaryOperator} {value : Expr} {form : Ir}
    (found : (Stmt.augment pos (.name place name) op value, form) ∈ stmts.zip forms) :
    (Stmt.augment pos (.name place name) op value).write? form = some ⟨Primitive.store, name⟩ := by
  obtain ⟨_, each⟩ := List.forall₂_iff_zip.mp h.forall₂
  obtain ⟨scope', allow, compiled⟩ := each found
  exact Stmt.write?_eq compiled

/-- In a function that compiles, the statements without a body leave their forms in source order,
and the form of an increment of a name stores it. The stores of the function follow its definitions
exactly if every name that it increments is a parameter or assigned in front of the increment: an
assignment looks at what is bound, an increment does not. -/
theorem a_store_follows_its_definition_unless_an_increment_comes_first (env : Environment)
    (definition : FunctionDef) (ir : Ir) (h : definition.compile env = .ok ir) :
    List.Forall₂ (fun stmt form => ∃ scope allow, stmt.form env scope allow = .ok form)
        (Stmt.leavesIn definition.body) (definition.leafForms ir) ∧
      (definition.leafForms ir).Sublist ir.parts ∧
      (∀ pos place name op value form, (Stmt.augment pos (.name place name) op value, form) ∈
          (Stmt.leavesIn definition.body).zip (definition.leafForms ir) →
        (Stmt.augment pos (.name place name) op value).write? form =
          some ⟨Primitive.store, name⟩) ∧
      (DefinedFirst (definition.params.map (·.name)) (definition.writes ir) ↔
        IncrementsBound (definition.params.map (·.name)) (Stmt.leavesIn definition.body)) := by
  have row := definition.inRow_of_compile h
  refine ⟨row.forall₂, definition.leafForms_sublist ir, ?_, ?_⟩
  · intro pos place name op value form found
    exact row.increments found
  · rw [FunctionDef.writes, row.writes]
    exact ⟨IncrementsBound.of_definedFirst, DefinedFirst.of_increments⟩

/-- A counter that a loop counts up: `def f(n): i = 0; while i < n: i += 1; i = n`, a line each,
with or without its first assignment. -/
def FunctionDef.counting (starting : Bool) : FunctionDef :=
  let name (line column : UInt32) (id : String) : Expr := .name ⟨line, column⟩ id
  let start : Stmt := .assign ⟨2, 4⟩ (name 2 4 "i") (.number ⟨2, 8⟩ (.int 0))
  let rest : List Stmt :=
    [.whileLoop ⟨3, 4⟩ (.compare ⟨3, 10⟩ (name 3 10 "i") [.lt] [name 3 14 "n"])
        [.augment ⟨4, 8⟩ (name 4 8 "i") .add (.number ⟨4, 13⟩ (.int 1))] [],
      .assign ⟨5, 4⟩ (name 5 4 "i") (name 5 8 "n")]
  .mk "f" [⟨"n", ⟨1, 6⟩⟩] (if starting then start :: rest else rest) ⟨1, 0⟩

theorem a_counter_is_stored_to_once_it_has_started :
    ∃ ir, (FunctionDef.counting true).compile {} = .ok ir ∧
      (FunctionDef.counting true).writes ir =
        [⟨"define", "i"⟩, ⟨"store", "i"⟩, ⟨"store", "i"⟩] ∧
      DefinedFirst ["n"] ((FunctionDef.counting true).writes ir) := by
  refine ⟨_, rfl, rfl, ?_⟩
  have law :=
    a_store_follows_its_definition_unless_an_increment_comes_first {} (.counting true) _ rfl
  apply law.2.2.2.mpr
  intro earlier pos place name op value later split
  -- The increment can only be the second of the three statements without a body.
  match earlier, split with
  | [_], split =>
    cases split
    exact .inr List.mem_cons_self
  | [], split => cases split
  | [_, _], split => cases split
  | _ :: _ :: _ :: rest, split => cases rest <;> cases split

theorem a_counter_that_never_started_is_stored_to :
    ¬ ∀ (env : Environment) (definition : FunctionDef) (ir : Ir),
      definition.compile env = .ok ir →
        DefinedFirst (definition.params.map (·.name)) (definition.writes ir) := by
  intro defined
  have first := defined {} (.counting false) _ rfl [] ⟨"store", "i"⟩ [⟨"define", "i"⟩] rfl
  have known := first.1 rfl
  revert known
  decide

end CallForm
