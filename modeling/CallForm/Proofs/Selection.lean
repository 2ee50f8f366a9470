-- What compiling one function of a program by its name has to do with
-- compiling all of them: the name alone picks the first definition under it,
-- while a full run records every definition and keeps the last one.
import CallForm.Proofs.Sessions

namespace CallForm

/-- The last function defined at the top level under `name`. -/
def Program.lastFunction? (program : Program) (name : String) : Option FunctionDef :=
  program.functions.reverse.find? (·.name == name)

/-- Where a name is defined at most once, its first definition is its last one. -/
theorem Program.lastFunction?_eq_function? (program : Program) (name : String)
    (once : (program.functions.map (·.name)).count name ≤ 1) :
    program.lastFunction? name = program.function? name := by
  have few : (program.functions.filter (·.name == name)).length ≤ 1 := by
    rwa [← List.countP_eq_length_filter, ← Function.comp_def (· == name), ← List.countP_map]
  rw [lastFunction?, function?, ← List.head?_filter, ← List.head?_filter, List.filter_reverse,
    List.head?_reverse]
  generalize program.functions.filter (·.name == name) = found at few
  match found with
  | [] | [_] => rfl
  | _ :: _ :: _ => exact absurd few (by simp)

/-- A name has a last definition exactly if it has a first one. -/
theorem Program.lastFunction?_isSome (program : Program) (name : String) :
    (program.lastFunction? name).isSome = (program.function? name).isSome := by
  rw [lastFunction?, function?, List.isSome_find?, List.isSome_find?, List.any_reverse]

namespace Session

variable (session : Session) (program : Program)

/-- The text that a function compiles to by itself, if it compiles. -/
def text? (definition : FunctionDef) : Option String :=
  match definition.compile (session.environment program) with
  | .ok ir => some ir.render
  | .error _ => none

/-! ## A run that succeeds -/

theorem mapM_id_eq_ok {ε α : Type} {results : List (Except ε α)} {values : List α}
    (h : results.mapM id = .ok values) : results = values.map .ok := by
  induction results generalizing values with
  | nil =>
    cases h
    rfl
  | cons result rest ih =>
    rw [List.mapM_cons] at h
    obtain ⟨value, hvalue, h⟩ := bind_eq_ok.mp h
    obtain ⟨others, hothers, h⟩ := bind_eq_ok.mp h
    cases h
    rw [List.map_cons, ih hothers]
    exact congrArg (· :: _) hvalue

theorem successes_ok {ε α : Type} (values : List α) :
    successes (values.map (Except.ok (ε := ε))) = values := by
  induction values with
  | nil => rfl
  | cons value rest ih => rw [List.map_cons, successes, ih]

/-- Where functions all compile, the first text under a name is that of the first function under
it. -/
theorem find?_compiled {definitions : List FunctionDef} {functions : List CompiledFunction}
    (all : definitions.map (session.compiled program) = functions.map .ok) (name : String) :
    Registry.find? name (functions.map fun function => (function.name, function.text)) =
      (definitions.find? (·.name == name)).bind (session.text? program) := by
  induction definitions generalizing functions with
  | nil =>
    cases functions with
    | nil => rfl
    | cons function rest => cases all
  | cons definition rest ih =>
    cases functions with
    | nil => cases all
    | cons function others =>
      obtain ⟨first, later⟩ := List.cons.inj all
      cases found : definition.compile (session.environment program) with
      | error cause =>
        rw [compiled, found] at first
        cases first
      | ok ir =>
        rw [compiled, found] at first
        cases first
        have text : session.text? program definition = some ir.render := by
          rw [text?, found]
        by_cases same : definition.name = name
        · simp [Registry.find?, same, text]
        · simpa [Registry.find?, same] using ih later

/-- A full run into an empty state that succeeds has compiled every function and recorded all of
them in order. -/
theorem full_of_complete {functions : List CompiledFunction}
    (complete : (session.compileProgram program none .empty).1 = .ok functions) :
    program.functions.map (session.compiled program) = functions.map .ok ∧
      (session.compileProgram program none .empty).2 =
        Registry.empty.insertAll
          (functions.map fun function => (function.name, function.text)) := by
  have run : session.compileProgram program none .empty =
      ((program.functions.map (session.compiled program)).mapM id,
        Registry.empty.insertAll
          ((successes (program.functions.map (session.compiled program))).map
            fun function => (function.name, function.text))) :=
    session.compileEach_eq program program.functions .empty
  rw [run] at complete ⊢
  have all := mapM_id_eq_ok complete
  refine ⟨all, ?_⟩
  rw [all, successes_ok]

/-- Such a run keeps, under every name, the text of the last function under it. -/
theorem get?_full {functions : List CompiledFunction}
    (complete : (session.compileProgram program none .empty).1 = .ok functions) (name : String) :
    (session.compileProgram program none .empty).2.get? name =
      (program.lastFunction? name).bind (session.text? program) := by
  obtain ⟨all, kept⟩ := session.full_of_complete program complete
  have backwards : program.functions.reverse.map (session.compiled program) =
      functions.reverse.map .ok := by
    rw [List.map_reverse, all, List.map_reverse]
  rw [kept, Registry.get?_insertAll, ← List.map_reverse, session.find?_compiled program backwards]
  exact Option.or_none

/-- In such a run every function has a text. -/
theorem text?_of_complete {functions : List CompiledFunction}
    (complete : (session.compileProgram program none .empty).1 = .ok functions)
    {definition : FunctionDef} (found : definition ∈ program.functions) :
    ∃ text, session.text? program definition = some text := by
  have made := List.mem_map_of_mem (f := session.compiled program) found
  rw [(session.full_of_complete program complete).1] at made
  obtain ⟨function, _, same⟩ := List.mem_map.mp made
  unfold compiled at same
  unfold text?
  cases compiles : definition.compile (session.environment program) with
  | ok ir => exact ⟨ir.render, rfl⟩
  | error cause =>
    rw [compiles] at same
    cases same

/-- A run for one name compiles the first function under it and records that alone. -/
theorem compileProgram_only {definition : FunctionDef} {name text : String}
    (first : program.function? name = some definition)
    (compiles : session.text? program definition = some text) :
    session.compileProgram program (some name) .empty =
      (.ok [⟨name, text⟩], Registry.empty.insert name text) := by
  have named : definition.name = name := by
    have := List.find?_some first
    simpa using this
  rw [compileProgram, select, first]
  dsimp only
  unfold text? at compiles
  rw [compileEach]
  split at compiles
  · rename_i ir found
    cases compiles
    rw [found, named]
    rfl
  · cases compiles

end Session

/-! ## The law -/

/-- If a full run into an empty state succeeds, then compiling one name into an empty state succeeds
exactly if the full run records the name, and otherwise the name is not found. The full run records
the text of the last function under the name, the run for the name that of the first one; so the
two agree where these have one text, as they do for a name that is defined once. -/
theorem a_name_selects_the_first_function_and_a_full_run_keeps_the_last (session : Session)
    (program : Program) (functions : List CompiledFunction)
    (complete : (session.compileProgram program none .empty).1 = .ok functions) (name : String) :
    let full := (session.compileProgram program none .empty).2
    let alone := session.compileProgram program (some name) .empty
    (full.get? name = none → alone = (.error (.functionNotFound name), .empty)) ∧
      (∀ text, full.get? name = some text → ∃ first last text',
        program.function? name = some first ∧ session.text? program first = some text' ∧
          program.lastFunction? name = some last ∧ session.text? program last = some text ∧
          alone = (.ok [⟨name, text'⟩], Registry.empty.insert name text') ∧
          (alone.2.get? name = some text ↔ text' = text)) ∧
      ((program.functions.map (·.name)).count name ≤ 1 → alone.2.get? name = full.get? name) := by
  intro full alone
  have kept : full.get? name = (program.lastFunction? name).bind (session.text? program) :=
    session.get?_full program complete name
  have known := program.lastFunction?_isSome name
  cases found : program.function? name with
  | none =>
    rw [found, Option.isSome_none, Option.isSome_eq_false_iff, Option.isNone_iff_eq_none] at known
    have missing : alone = (.error (.functionNotFound name), .empty) := by
      simp only [alone, Session.compileProgram, Session.select, found]
    rw [known, Option.bind_none] at kept
    rw [kept, missing]
    refine ⟨fun _ => rfl, ?_, fun _ => rfl⟩
    intro text found
    cases found
  | some first =>
    rw [found, Option.isSome_some, Option.isSome_iff_exists] at known
    obtain ⟨last, hlast⟩ := known
    have firstListed : first ∈ program.functions := List.mem_of_find?_eq_some found
    have lastListed : last ∈ program.functions :=
      List.mem_reverse.mp (List.mem_of_find?_eq_some hlast)
    obtain ⟨firstText, hfirstText⟩ := session.text?_of_complete program complete firstListed
    obtain ⟨lastText, hlastText⟩ := session.text?_of_complete program complete lastListed
    have single : alone = (.ok [⟨name, firstText⟩], Registry.empty.insert name firstText) :=
      session.compileProgram_only program found hfirstText
    have recorded : alone.2.get? name = some firstText := by
      rw [single, Registry.get?_insert, if_pos rfl]
    rw [hlast, Option.bind_some, hlastText] at kept
    rw [kept, recorded]
    refine ⟨?_, ?_, ?_⟩
    · intro absent
      cases absent
    · rintro text ⟨⟩
      exact ⟨first, last, firstText, rfl, hfirstText, hlast, hlastText, single,
        Option.some_inj⟩
    · intro once
      have same := program.lastFunction?_eq_function? name once
      rw [hlast, found] at same
      cases same
      rw [← hfirstText, hlastText]

theorem one_name_is_found_and_another_is_not :
    let full := (Session.compileProgram default .redefining none .empty).2
    full.get? "g" = some "define$4$0(g$4$0, 2)" ∧
      (Session.compileProgram default .redefining (some "g") .empty).2.get? "g" = full.get? "g" ∧
      full.get? "h" = none ∧
      Session.compileProgram default .redefining (some "h") .empty =
        (.error (.functionNotFound "h"), .empty) := by
  have law (name : String) :=
    a_name_selects_the_first_function_and_a_full_run_keeps_the_last default .redefining _ rfl name
  refine ⟨?_, ?_, ?_, ?_⟩
  · decide +kernel
  · exact (law "g").2.2 (by decide)
  · decide +kernel
  · exact (law "h").1 (by decide +kernel)

theorem a_name_defined_twice_is_compiled_apart_from_the_program :
    ¬ ∀ (session : Session) (program : Program) (functions : List CompiledFunction),
      (session.compileProgram program none .empty).1 = .ok functions →
      ∀ name text, (session.compileProgram program none .empty).2.get? name = some text →
        (session.compileProgram program (some name) .empty).2.get? name = some text := by
  intro agree
  have same := agree default .redefining _ rfl "f" "define$7$0(f$7$0, 3)" (by decide +kernel)
  exact absurd same (by decide +kernel)

end CallForm
