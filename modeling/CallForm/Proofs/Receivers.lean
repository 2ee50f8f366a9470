-- What an attribute compiles to, and when it is refused. A dotted object is
-- decided by the last member alone and is no argument; a name is the first
-- argument once it is bound, and has to be a module otherwise.
import CallForm.Proofs.Bindings
import CallForm.Proofs.Emission

namespace CallForm

/-! ## One attribute -/

/-- An attribute compiles to the call of its member: the receiver comes first, then the
arguments. -/
theorem Expr.lower_access (env : Environment) (scope : Scope) (priority : Nat) {value : Expr}
    {access : Access} (is : value.access? = some access) :
    value.lower env scope priority = (do
      let receiver ← receiverOf env scope access.pos access.object access.member
        (access.object.lower env scope 0)
      let args ← Expr.lowerAll env scope 0 access.args
      .ok (Ir.taggedCall access.pos (env.references.head access.member) (receiver ++ args))) := by
  unfold Expr.access? at is
  split at is
  · cases is
    simp only [Expr.lower, Expr.lowerAll, except_ok_bind, List.append_nil]
  · cases is
    rw [Expr.lower]
  · cases is

theorem Expr.fault?_access (env : Environment) (scope : Scope) {value : Expr} {access : Access}
    (is : value.access? = some access) :
    value.fault? env scope = memberFault? env scope access.pos access.object access.member := by
  unfold Expr.access? at is
  split at is <;> cases is <;> rfl

section

variable (env : Environment) (definition : FunctionDef) {place : Place} {value : Expr}
  {access : Access}

/-- In a function that compiles, an attribute that lowering comes by leaves its call. -/
theorem FunctionDef.access_emitted {ir : Ir} (compiled : definition.compile env = .ok ir)
    (met : (place, .expr value) ∈ definition.visits env.enters)
    (is : value.access? = some access) : ∃ receiver args,
      receiverOf env (place.scope definition.start) access.pos access.object access.member
          (access.object.lower env (place.scope definition.start) 0) = .ok receiver ∧
        Expr.lowerAll env (place.scope definition.start) 0 access.args = .ok args ∧
        Ir.taggedCall access.pos (env.references.head access.member) (receiver ++ args) ∈
          ir.parts := by
  obtain ⟨priority, form, lowered, part⟩ := FunctionDef.emits_compile compiled _ _ met
  rw [Expr.lower_access env _ priority is] at lowered
  obtain ⟨receiver, hreceiver, lowered⟩ := bind_eq_ok.mp lowered
  obtain ⟨args, hargs, lowered⟩ := bind_eq_ok.mp lowered
  cases lowered
  rw [Ir.partsIn, Ir.partsIn, List.append_nil] at part
  exact ⟨receiver, args, hreceiver, hargs, part⟩

/-- What is bound at a place: the parameters, what complete statements in front of it assign, and
what the statements assign that it stands inside. -/
theorem FunctionDef.isBound_place (place : Place) (name : String) :
    (place.scope definition.start).isBound name = true ↔
      name ∈ definition.params.map (·.name) ∨ name ∈ place.before ∨ name ∈ place.early := by
  rw [Place.scope, Scope.isBound_bindAll, Scope.isBound_bindAll, FunctionDef.start,
    Scope.isBound_ofParams]
  simp only [Bool.or_eq_true, decide_eq_true_eq]
  tauto

end

/-! ## Chains -/

/-- The name that a chain of members starts with, and the members, if an expression is one. -/
def Expr.chain? : Expr → Option (String × List String)
  | .name _ id => some (id, [])
  | .attribute _ object member =>
    object.chain?.map fun (root, members) => (root, members ++ [member])
  | _ => none

/-- A chain as messages write it: its members after its name, a dot in front of each. -/
def dottedChain (root : String) (members : List String) : String :=
  members.foldl (fun text member => text ++ "." ++ member) root

theorem Expr.dotted_eq_of_chain? {root : String} : ∀ {object : Expr} {members : List String},
    object.chain? = some (root, members) → object.dotted = dottedChain root members
  | .name _ id, members, h => by
    cases h
    rfl
  | .attribute _ object member, members, h => by
    obtain ⟨⟨root', before⟩, inner, same⟩ := Option.map_eq_some_iff.mp h
    cases same
    rw [Expr.dotted, Expr.dotted_eq_of_chain? inner, dottedChain, dottedChain,
      List.foldl_concat]

/-- A chain of members that has one is an attribute. -/
theorem Expr.attribute_of_chain? {object : Expr} {root first : String} {rest : List String}
    (h : object.chain? = some (root, first :: rest)) :
    ∃ pos inner member, object = .attribute pos inner member := by
  cases object with
  | «attribute» pos inner member => exact ⟨pos, inner, member, rfl⟩
  | name pos id => cases h
  | _ => cases h

/-- A chain of two or more members is resolved by its last one, whatever name it starts with and
whether or not this name is bound. If the function compiles, then the last member has a primitive,
and the chain is the call of it with its own arguments and no receiver. If the last member has no
primitive, the function fails with an unresolvable reference or with a fault in front of it. -/
theorem a_chain_is_resolved_by_its_last_member (env : Environment) (definition : FunctionDef)
    (place : Place) (value : Expr) (access : Access) (root first : String) (rest : List String)
    (met : (place, .expr value) ∈ definition.visits env.enters)
    (is : value.access? = some access)
    (chain : access.object.chain? = some (root, first :: rest)) :
    (∀ ir, definition.compile env = .ok ir → ∃ primitive args,
        env.references.resolve? access.member = some primitive ∧
          Expr.lowerAll env (place.scope definition.start) 0 access.args = .ok args ∧
          Ir.taggedCall access.pos primitive args ∈ ir.parts) ∧
      ∀ earlier later,
        definition.visits env.enters = earlier ++ (place, .expr value) :: later →
        env.references.resolve? access.member = none →
          definition.compile env = .error ((faultsIn env definition.start earlier).headD
            (.unresolvableReference (dottedChain root (first :: rest)) access.member
              access.pos.line)) := by
  obtain ⟨at', inner, member, object⟩ := Expr.attribute_of_chain? chain
  constructor
  · intro ir compiled
    obtain ⟨receiver, args, hreceiver, hargs, part⟩ :=
      definition.access_emitted env compiled met is
    rw [object, receiverOf] at hreceiver
    cases found : env.references.resolve? access.member with
    | none =>
      rw [found] at hreceiver
      cases hreceiver
    | some primitive =>
      rw [found] at hreceiver
      cases hreceiver
      have head : env.references.head access.member = primitive := by
        rw [ReferenceTable.head, found, Option.getD_some]
      rw [head] at part
      exact ⟨primitive, args, rfl, hargs, part⟩
  · intro earlier later split missing
    have faulty : (Visit.expr value).fault? env (place.scope definition.start) =
        some (.unresolvableReference (dottedChain root (first :: rest)) access.member
          access.pos.line) := by
      rw [Visit.fault?, Expr.fault?_access env _ is, ← Expr.dotted_eq_of_chain? chain, object,
        memberFault?, missing]
      rfl
    exact definition.fails_at env split faulty

/-- A member of a member of a parameter, called: `def f(a): return a.T.dot(a)` with any name for
`dot`, a line each. -/
def FunctionDef.transposing (member : String) : FunctionDef :=
  .mk "f" [⟨"a", ⟨1, 6⟩⟩]
    [.ret ⟨2, 4⟩ (some (.call ⟨2, 11⟩
      (.attribute ⟨2, 11⟩ (.attribute ⟨2, 11⟩ (.name ⟨2, 11⟩ "a") "T") member)
      [.name ⟨2, 19⟩ "a"]))] ⟨1, 0⟩

theorem a_chain_on_a_parameter_leaves_it_out :
    (∃ ir, (FunctionDef.transposing "dot").compile {} = .ok ir ∧
        Ir.taggedCall ⟨2, 11⟩ "dot" [Ir.tagged ⟨2, 19⟩ "a"] ∈ ir.parts) ∧
      (FunctionDef.transposing "tr").compile {} = .error (.unresolvableReference "a.T" "tr" 2) := by
  have law (member : String) :=
    a_chain_is_resolved_by_its_last_member {} (.transposing member) ⟨[], []⟩ _
      ⟨⟨2, 11⟩, .attribute ⟨2, 11⟩ (.name ⟨2, 11⟩ "a") "T", member, [.name ⟨2, 19⟩ "a"]⟩ "a" "T" []
      (List.mem_of_getElem? (i := 1) rfl) rfl rfl
  constructor
  · refine ⟨_, rfl, ?_⟩
    obtain ⟨primitive, args, known, lowered, part⟩ := (law "dot").1 _ rfl
    cases known
    cases lowered
    exact part
  · exact (law "tr").2 [(⟨[], []⟩, .stmt true _)] _ rfl rfl

/-- A member of a member of a name that stands for nothing: `def f(): return foo.bar.shape`, a line
each. -/
def FunctionDef.chainingUnknown : FunctionDef :=
  .mk "f" [] [.ret ⟨2, 4⟩ (some (.attribute ⟨2, 11⟩
    (.attribute ⟨2, 11⟩ (.name ⟨2, 11⟩ "foo") "bar") "shape"))] ⟨1, 0⟩

theorem chains_are_not_resolved_at_their_root :
    ¬ ∀ (env : Environment) (definition : FunctionDef) (ir : Ir),
      definition.compile env = .ok ir →
      ∀ place value access root first rest,
        (place, .expr value) ∈ definition.visits env.enters → value.access? = some access →
        access.object.chain? = some (root, first :: rest) →
          ((place.scope definition.start).isBound root = true ∧
            ∃ head pos args, Ir.taggedCall access.pos head args ∈ ir.parts ∧
              Ir.tagged pos root ∈ args) ∨
          env.modules.exposes root first = true := by
  intro resolved
  obtain ⟨bound, _⟩ | exposed :=
    resolved {} .chainingUnknown _ rfl ⟨[], []⟩ _ _ "foo" "bar" []
      (List.mem_of_getElem? (i := 1) rfl) rfl rfl
  · cases bound
  · cases exposed

/-! ## Names -/

/-- A name in front of a member is the first argument of the call if it is bound: it is a parameter,
a complete statement in front of it assigns it, or a statement that it stands inside does. If it
is not bound, it has to be a module that exposes the member, and is no argument; otherwise the
function fails with an unresolvable reference or with a fault in front of it. -/
theorem a_name_is_a_receiver_once_it_is_bound (env : Environment) (definition : FunctionDef)
    (place : Place) (value : Expr) (access : Access) (pos : Position) (name : String)
    (met : (place, .expr value) ∈ definition.visits env.enters)
    (is : value.access? = some access) (object : access.object = .name pos name) :
    (∀ ir, definition.compile env = .ok ir → ∃ args,
        Expr.lowerAll env (place.scope definition.start) 0 access.args = .ok args ∧
          if name ∈ definition.params.map (·.name) ∨ name ∈ place.before ∨ name ∈ place.early then
            Ir.taggedCall access.pos (env.references.head access.member)
              (Ir.tagged pos name :: args) ∈ ir.parts
          else
            env.modules.exposes name access.member = true ∧
              Ir.taggedCall access.pos (env.references.head access.member) args ∈ ir.parts) ∧
      ∀ earlier later,
        definition.visits env.enters = earlier ++ (place, .expr value) :: later →
        name ∉ definition.params.map (·.name) → name ∉ place.before → name ∉ place.early →
        env.modules.exposes name access.member = false →
          definition.compile env = .error ((faultsIn env definition.start earlier).headD
            (.unresolvableReference name access.member access.pos.line)) := by
  have bound := definition.isBound_place place name
  constructor
  · intro ir compiled
    obtain ⟨receiver, args, hreceiver, hargs, part⟩ :=
      definition.access_emitted env compiled met is
    refine ⟨args, hargs, ?_⟩
    rw [object, receiverOf] at hreceiver
    simp only [bound] at hreceiver
    split at hreceiver
    · rename_i known
      rw [if_pos known]
      cases hreceiver
      exact part
    · rename_i unknown
      rw [if_neg unknown]
      split at hreceiver
      · rename_i exposed
        cases hreceiver
        exact ⟨exposed, part⟩
      · cases hreceiver
  · intro earlier later split param before early unexposed
    have unknown : (place.scope definition.start).isBound name = false := by
      rw [Bool.eq_false_iff, ne_eq, bound]
      simp only [param, before, early, or_self, not_false_eq_true]
    have faulty : (Visit.expr value).fault? env (place.scope definition.start) =
        some (.unresolvableReference name access.member access.pos.line) := by
      rw [Visit.fault?, Expr.fault?_access env _ is, object, memberFault?, unknown, unexposed]
      rfl
    exact definition.fails_at env split faulty

/-- A module and two names, one of them assigned first: `def f(a): x = np.sqrt(a); return x.dot(a)`,
and `def f(a): return x.dot(a)` without the assignment, a line each. -/
def FunctionDef.multiplying (assigning : Bool) : FunctionDef :=
  let name (line column : UInt32) (id : String) : Expr := .name ⟨line, column⟩ id
  let product (line : UInt32) : Stmt :=
    .ret ⟨line, 4⟩ (some (.call ⟨line, 11⟩ (.attribute ⟨line, 11⟩ (name line 11 "x") "dot")
      [name line 17 "a"]))
  let root : Expr := .call ⟨2, 8⟩ (.attribute ⟨2, 8⟩ (name 2 8 "np") "sqrt") [name 2 16 "a"]
  if assigning then
    .mk "f" [⟨"a", ⟨1, 6⟩⟩] [.assign ⟨2, 4⟩ (name 2 4 "x") root, product 3] ⟨1, 0⟩
  else .mk "f" [⟨"a", ⟨1, 6⟩⟩] [product 2] ⟨1, 0⟩

/-- The environment in which `np` exposes `sqrt`. -/
def Environment.withRoots : Environment where
  modules := ModuleBindings.empty.bind "np" ["sqrt"]

theorem an_assigned_name_is_passed_on_and_a_module_is_not :
    (∃ ir, (FunctionDef.multiplying true).compile .withRoots = .ok ir ∧
        Ir.taggedCall ⟨2, 8⟩ "square_root" [Ir.tagged ⟨2, 16⟩ "a"] ∈ ir.parts ∧
        Ir.taggedCall ⟨3, 11⟩ "dot" [Ir.tagged ⟨3, 11⟩ "x", Ir.tagged ⟨3, 17⟩ "a"] ∈ ir.parts) ∧
      (FunctionDef.multiplying false).compile .withRoots =
        .error (.unresolvableReference "x" "dot" 2) := by
  refine ⟨⟨_, rfl, ?_, ?_⟩, ?_⟩
  · obtain ⟨args, lowered, _, part⟩ :=
      (a_name_is_a_receiver_once_it_is_bound .withRoots (.multiplying true) ⟨[], ["x"]⟩ _ _ _ "np"
        (List.mem_of_getElem? (i := 1) rfl) rfl rfl).1 _ rfl
    cases lowered
    exact part
  · obtain ⟨args, lowered, part⟩ :=
      (a_name_is_a_receiver_once_it_is_bound .withRoots (.multiplying true) ⟨["x"], []⟩ _ _ _ "x"
        (List.mem_of_getElem? (i := 4) rfl) rfl rfl).1 _ rfl
    cases lowered
    exact part
  · exact (a_name_is_a_receiver_once_it_is_bound .withRoots (.multiplying false) ⟨[], []⟩ _ _ _ "x"
      (List.mem_of_getElem? (i := 1) rfl) rfl rfl).2 [(⟨[], []⟩, .stmt true _)] _ rfl
      (by decide) List.not_mem_nil List.not_mem_nil rfl

/-- A name in front of a member before it is bound: `def f(): x = x.shape`, and
`def f(): for i in x.shape: x = i`, a line each. -/
def FunctionDef.selfReferring (looping : Bool) : FunctionDef :=
  if looping then
    .mk "f" [] [.forLoop ⟨2, 4⟩ (.name ⟨2, 8⟩ "i")
      (.attribute ⟨2, 13⟩ (.name ⟨2, 13⟩ "x") "shape")
      [.assign ⟨3, 8⟩ (.name ⟨3, 8⟩ "x") (.name ⟨3, 12⟩ "i")] []] ⟨1, 0⟩
  else
    .mk "f" [] [.assign ⟨2, 4⟩ (.name ⟨2, 4⟩ "x")
      (.attribute ⟨2, 8⟩ (.name ⟨2, 8⟩ "x") "shape")] ⟨1, 0⟩

/-- Every name that a function passes on as a receiver is a parameter, or a complete statement in
front of it assigns it. -/
def FunctionDef.ReceiversBoundBefore (env : Environment) (definition : FunctionDef) : Prop :=
  ∀ ir, definition.compile env = .ok ir → ∀ place value access pos name args,
    (place, .expr value) ∈ definition.visits env.enters → value.access? = some access →
    access.object = .name pos name →
    value.lower env (place.scope definition.start) 0 =
        .ok (Ir.taggedCall access.pos (env.references.head access.member)
          (Ir.tagged pos name :: args)) →
      name ∈ definition.params.map (·.name) ∨ name ∈ place.before

theorem a_name_is_a_receiver_inside_its_own_assignment :
    ¬ (FunctionDef.selfReferring false).ReceiversBoundBefore {} ∧
      ¬ (FunctionDef.selfReferring true).ReceiversBoundBefore {} := by
  constructor
  · intro bound
    have found := bound _ rfl ⟨[], ["x"]⟩ _ _ ⟨2, 8⟩ "x" []
      (List.mem_of_getElem? (i := 1) rfl) rfl rfl rfl
    exact absurd found (by decide)
  · intro bound
    have found := bound _ rfl ⟨[], ["x"]⟩ _ _ ⟨2, 13⟩ "x" []
      (List.mem_of_getElem? (i := 4) rfl) rfl rfl rfl
    exact absurd found (by decide)

end CallForm
