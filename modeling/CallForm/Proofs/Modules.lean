-- What a name in front of a member stands for under a configuration: the
-- modules in sight are what the configuration and the imports list, and the
-- primitives are the configured ones before those known to every compilation.
import CallForm.Proofs.Receivers
import CallForm.Proofs.Sessions
import Mathlib.Data.List.Nodup

namespace CallForm

/-! ## Entries that have one value under each name -/

namespace Registry

variable {α : Type}

theorem find?_eq_some_iff {entries : List (String × α)} (nodup : (entries.map Prod.fst).Nodup)
    {name : String} {value : α} : find? name entries = some value ↔ (name, value) ∈ entries := by
  refine ⟨mem_of_find?, fun found => ?_⟩
  induction entries with
  | nil => cases found
  | cons entry rest ih =>
    obtain ⟨key, old⟩ := entry
    obtain ⟨fresh, distinct⟩ := List.nodup_cons.mp nodup
    rw [find?]
    rcases List.mem_cons.mp found with same | later
    · cases same
      rw [if_pos rfl]
    · have apart : key ≠ name := fun same => fresh (List.mem_map.mpr ⟨_, later, same.symm⟩)
      rw [if_neg apart, ih distinct later]

/-- The first entry under a name is the last one. -/
theorem find?_reverse (registry : Registry α) (name : String) :
    find? name registry.entries.reverse = registry.get? name := by
  have reversed : (registry.entries.reverse.map Prod.fst).Nodup := by
    rw [List.map_reverse, List.nodup_reverse]
    exact registry.nodup
  apply Option.ext
  intro value
  rw [get?, find?_eq_some_iff reversed, find?_eq_some_iff registry.nodup, List.mem_reverse]

end Registry

/-! ## Primitives -/

/-- A configured entry stands in front of the one known to every compilation. -/
theorem ReferenceTable.resolve?_extended (extra : Registry String) (member : String) :
    (ReferenceTable.extended extra.entries).resolve? member =
      (extra.get? member).or (ReferenceTable.builtin.resolve? member) := by
  rw [resolve?, extended, Registry.get?_insertAll, Registry.find?_reverse]
  rfl

/-- The name emitted for a member under a configuration: the configured primitive, else the one
known to every compilation, else the member itself. -/
def Config.headFor (config : Config) (member : String) : String :=
  match config.references.get? member with
  | some primitive => primitive
  | none => (ReferenceTable.builtin.resolve? member).getD member

theorem Config.head_references (config : Config) (member : String) :
    (Session.ofConfig config).references.head member = config.headFor member := by
  rw [ReferenceTable.head, Session.ofConfig, ReferenceTable.resolve?_extended, headFor]
  cases config.references.get? member <;> rfl

/-! ## Modules -/

/-- A member is listed for a name: the configuration lists it there, or an import binds the name
and its catalogue lists the member, which is the configured one for the imported module or else the
one of the module's own name. -/
inductive Listed (config : Config) (imports : List Import) (name member : String) : Prop
  | configured {members : List String} : (name, members) ∈ config.modules.entries →
      member ∈ members → Listed config imports name member
  | imported {entry : Import} {members : List String} : entry ∈ imports → entry.binding = name →
      Catalogue.members? ((config.imports.get? entry.source).getD entry.source) = some members →
      member ∈ members → Listed config imports name member

namespace ModuleBindings

theorem exposes_bind (bindings : ModuleBindings) (binding name member : String)
    (members : List String) :
    (bindings.bind binding members).exposes name member = true ↔
      bindings.exposes name member = true ∨ binding = name ∧ member ∈ members := by
  rw [exposes, bind, Registry.get?_insert]
  by_cases same : binding = name
  · subst same
    cases found : bindings.members.get? binding <;> simp [exposes, found]
  · simp [exposes, same]

/-- Modules bound one after another add up. -/
theorem exposes_foldl_bind (entries : List (String × List String)) (start : ModuleBindings)
    (name member : String) :
    (entries.foldl (fun found (name, members) => found.bind name members) start).exposes
        name member = true ↔
      start.exposes name member = true ∨
        ∃ members, (name, members) ∈ entries ∧ member ∈ members := by
  induction entries generalizing start with
  | nil => simp
  | cons entry rest ih =>
    obtain ⟨binding, members⟩ := entry
    rw [List.foldl_cons, ih, exposes_bind]
    constructor
    · rintro ((before | ⟨rfl, listed⟩) | ⟨others, found, listed⟩)
      · exact .inl before
      · exact .inr ⟨members, List.mem_cons_self, listed⟩
      · exact .inr ⟨others, List.mem_cons_of_mem _ found, listed⟩
    · rintro (before | ⟨others, found, listed⟩)
      · exact .inl (.inl before)
      · rcases List.mem_cons.mp found with same | later
        · cases same
          exact .inl (.inr ⟨rfl, listed⟩)
        · exact .inr ⟨others, later, listed⟩

end ModuleBindings

namespace Session

theorem exposes_bindImport (config : Config) (bindings : ModuleBindings) (entry : Import)
    (name member : String) :
    (bindImport config bindings entry).exposes name member = true ↔
      bindings.exposes name member = true ∨ entry.binding = name ∧
        ∃ members, Catalogue.members? (config.catalogueFor entry.source) = some members ∧
          member ∈ members := by
  rw [bindImport]
  cases Catalogue.members? (config.catalogueFor entry.source) with
  | none => simp
  | some members => simp [ModuleBindings.exposes_bind]

/-- Imports add to the modules in sight, and take nothing from them. -/
theorem exposes_foldl_bindImport (config : Config) (imports : List Import)
    (start : ModuleBindings) (name member : String) :
    (imports.foldl (bindImport config) start).exposes name member = true ↔
      start.exposes name member = true ∨ ∃ entry ∈ imports, entry.binding = name ∧
        ∃ members, Catalogue.members? (config.catalogueFor entry.source) = some members ∧
          member ∈ members := by
  induction imports generalizing start with
  | nil => simp
  | cons entry rest ih =>
    rw [List.foldl_cons, ih, exposes_bindImport, or_assoc, List.exists_mem_cons_iff]

/-- The modules in sight expose what is listed, and nothing else. -/
theorem exposes_modulesOf (config : Config) (imports : List Import) (name member : String) :
    (modulesOf config imports).exposes name member = true ↔ Listed config imports name member := by
  rw [modulesOf, exposes_foldl_bindImport, ModuleBindings.exposes_foldl_bind]
  constructor
  · rintro ((nothing | ⟨members, entry, listed⟩) | ⟨entry, found, same, members, known, listed⟩)
    · cases nothing
    · exact .configured entry listed
    · exact .imported found same known listed
  · rintro (⟨entry, listed⟩ | ⟨found, same, known, listed⟩)
    · exact .inl (.inr ⟨_, entry, listed⟩)
    · exact .inr ⟨_, found, same, _, known, listed⟩

end Session

/-- What is listed does not depend on the order of the entries and of the imports. -/
theorem Listed.perm {config : Config} {imports imports' : List Import} {name member : String}
    (h : Listed config imports name member) (modules : Registry (List String))
    (same : modules.entries.Perm config.modules.entries) (same' : imports'.Perm imports) :
    Listed { config with modules } imports' name member := by
  cases h with
  | configured entry listed => exact .configured (same.mem_iff.mpr entry) listed
  | imported found binds known listed =>
    exact .imported (same'.mem_iff.mpr found) binds known listed

/-! ## The law -/

section

variable {env : Environment} {scope : Scope} {value : Expr} {access : Access} {pos : Position}
  {name : String} {args : List Ir}

/-- A name that is not bound is a module, or what it stands in front of is refused. -/
theorem Expr.lower_unbound (is : value.access? = some access)
    (object : access.object = .name pos name) (unbound : scope.isBound name = false)
    (lowered : Expr.lowerAll env scope 0 access.args = .ok args) (priority : Nat) :
    value.lower env scope priority =
      if env.modules.exposes name access.member then
        .ok (Ir.taggedCall access.pos (env.references.head access.member) args)
      else .error (.unresolvableReference name access.member access.pos.line) := by
  rw [Expr.lower_access env scope priority is, object, receiverOf, unbound, lowered]
  cases env.modules.exposes name access.member <;> rfl

end

/-- A member of a name that is not bound, called or read, compiles exactly if it is listed for the
name. It is then the call of its primitive with its own arguments and no receiver, and otherwise an
unresolvable reference of this name and member, which the function fails with unless it has a fault
in front of it. In which order the entries and the imports come that list it does not matter. -/
theorem a_member_resolves_exactly_where_it_is_listed (config : Config) (program : Program)
    {value : Expr} {access : Access} {pos : Position} {name : String}
    (is : value.access? = some access) (object : access.object = .name pos name) :
    let env := (Session.ofConfig config).environment program
    let refused := LowerError.unresolvableReference name access.member access.pos.line
    (∀ (scope : Scope) (priority : Nat) (args : List Ir), scope.isBound name = false →
      Expr.lowerAll env scope 0 access.args = .ok args →
        (Listed config program.imports name access.member → value.lower env scope priority =
          .ok (Ir.taggedCall access.pos (config.headFor access.member) args)) ∧
        (¬ Listed config program.imports name access.member →
          value.lower env scope priority = .error refused)) ∧
    (∀ (definition : FunctionDef) (place : Place) (earlier later : List (Place × Visit)),
      definition.visits env.enters = earlier ++ (place, .expr value) :: later →
      name ∉ definition.params.map (·.name) → name ∉ place.before → name ∉ place.early →
        (∀ ir, definition.compile env = .ok ir →
          Listed config program.imports name access.member ∧ ∃ args,
            Expr.lowerAll env (place.scope definition.start) 0 access.args = .ok args ∧
            Ir.taggedCall access.pos (config.headFor access.member) args ∈ ir.parts) ∧
        (¬ Listed config program.imports name access.member → definition.compile env =
          .error ((faultsIn env definition.start earlier).headD refused))) ∧
    ∀ (modules : Registry (List String)) (imports : List Import),
      modules.entries.Perm config.modules.entries → imports.Perm program.imports →
        (Listed { config with modules } imports name access.member ↔
          Listed config program.imports name access.member) := by
  intro env refused
  have exposed : env.modules.exposes name access.member = true ↔
      Listed config program.imports name access.member := Session.exposes_modulesOf ..
  have head : env.references.head access.member = config.headFor access.member :=
    config.head_references access.member
  refine ⟨?call, ?function, ?order⟩
  case call =>
    intro scope priority args unbound lowered
    rw [Expr.lower_unbound is object unbound lowered priority, head]
    refine ⟨fun listed => if_pos (exposed.mpr listed), fun unlisted => if_neg ?_⟩
    exact fun found => unlisted (exposed.mp found)
  case function =>
    intro definition place earlier later split param before early
    have unbound : (place.scope definition.start).isBound name = false := by
      rw [Bool.eq_false_iff, ne_eq, FunctionDef.isBound_place]
      simp only [param, before, early, or_self, not_false_eq_true]
    constructor
    · intro ir compiled
      have met : (place, .expr value) ∈ definition.visits env.enters := by
        rw [split]
        exact List.mem_append_right _ List.mem_cons_self
      obtain ⟨receiver, args, hreceiver, hargs, part⟩ :=
        definition.access_emitted env compiled met is
      rw [object, receiverOf, unbound] at hreceiver
      cases found : env.modules.exposes name access.member with
      | false =>
        rw [found] at hreceiver
        cases hreceiver
      | true =>
        rw [found] at hreceiver
        cases hreceiver
        rw [head] at part
        exact ⟨exposed.mp found, args, hargs, part⟩
    · intro unlisted
      have unexposed : env.modules.exposes name access.member = false := by
        rw [Bool.eq_false_iff]
        exact fun found => unlisted (exposed.mp found)
      have faulty : (Visit.expr value).fault? env (place.scope definition.start) =
          some refused := by
        rw [Visit.fault?, Expr.fault?_access env _ is, object, memberFault?, unbound, unexposed]
        rfl
      exact definition.fails_at env split faulty
  case order =>
    intro modules imports same same'
    refine ⟨fun listed => ?_, fun listed => listed.perm modules same same'⟩
    exact listed.perm config.modules same.symm same'.symm

/-- A configuration that lists `fft` for `np`, takes the catalogue of `numpy` for `cupy`, and has a
primitive of its own for `dot`. -/
def Config.redirecting : Config where
  references := Registry.ofList [("dot", "product")]
  modules := Registry.ofList [("np", ["fft"])]
  imports := Registry.ofList [("cupy", "numpy")]

/-- A module without a catalogue and one with the catalogue of another, under one name. -/
def Program.redirected : Program where
  body := []
  imports := [⟨"scipy", "np"⟩, ⟨"cupy", "np"⟩]

/-- The call of a member of `np` in `def f(a): return np.dot(a)`, with any name for `dot`. -/
def Expr.ofModule (member : String) : Expr :=
  .call ⟨2, 11⟩ (.attribute ⟨2, 11⟩ (.name ⟨2, 11⟩ "np") member) [.name ⟨2, 18⟩ "a"]

/-- The function around it, a line each for its head and its body. -/
def FunctionDef.ofModule (member : String) : FunctionDef :=
  .mk "f" [⟨"a", ⟨1, 6⟩⟩] [.ret ⟨2, 4⟩ (some (.ofModule member))] ⟨1, 0⟩

theorem configured_and_imported_members_are_both_in_sight :
    let env := (Session.ofConfig .redirecting).environment .redirected
    let scope := Scope.ofParams ["a"]
    let calls (member head : String) := (Expr.ofModule member).lower env scope 0 =
      .ok (Ir.taggedCall ⟨2, 11⟩ head [Ir.tagged ⟨2, 18⟩ "a"])
    calls "dot" "product" ∧ calls "sqrt" "square_root" ∧ calls "fft" "fft" ∧
      (FunctionDef.ofModule "tr").compile env =
        .error (.unresolvableReference "np" "tr" 2) := by
  intro env scope calls
  have law (member : String) :=
    @a_member_resolves_exactly_where_it_is_listed .redirecting .redirected (.ofModule member) _ _ _
      rfl rfl
  have imported (member : String) (listed : member ∈ Catalogue.numeric) :
      Listed .redirecting Program.redirected.imports "np" member :=
    @Listed.imported _ _ _ _ ⟨"cupy", "np"⟩ _ (by decide) rfl rfl listed
  have configured : Listed .redirecting Program.redirected.imports "np" "fft" :=
    @Listed.configured _ _ _ _ ["fft"] (by decide) (by decide)
  have unlisted : ¬ Listed .redirecting Program.redirected.imports "np" "tr" := fun listed =>
    absurd ((Session.exposes_modulesOf ..).mpr listed) (by decide)
  refine ⟨?_, ?_, ?_, ?_⟩
  · exact ((law "dot").1 scope 0 _ rfl rfl).1 (imported "dot" (by decide))
  · exact ((law "sqrt").1 scope 0 _ rfl rfl).1 (imported "sqrt" (by decide))
  · exact ((law "fft").1 scope 0 _ rfl rfl).1 configured
  · exact ((law "tr").2.1 (.ofModule "tr") ⟨[], []⟩ [(⟨[], []⟩, .stmt true _)] _ rfl
      (by decide) List.not_mem_nil List.not_mem_nil).2 unlisted

end CallForm
