-- What a session answers and what it keeps, over any run of requests: its
-- answers do not depend on what was compiled before, and the state holds
-- each compiled name once, in the order of the first successes with the
-- texts of the last ones.
import Mathlib.Data.List.Induction
import CallForm.Proofs.Outcome
import CallForm.Session.Basic

namespace CallForm

/-! ## Runs -/

/-- What a session is asked: a source text or a tree, and the only function to compile if there
is one. -/
inductive Request
  | source (text : String) (only : Option String)
  | program (tree : Program) (only : Option String)

/-- The function that is asked for alone. -/
def Request.only : Request → Option String
  | .source _ only | .program _ only => only

namespace Session

/-- The answer to a request, and the state after it. Source texts are read by a parser. -/
def answer (session : Session) (parser : SourceParser) (request : Request)
    (state : CompilerState) : Except CompileError (List CompiledFunction) × CompilerState :=
  match request with
  | .source text only => session.compileText parser text only state
  | .program tree only => session.compileProgram tree only state

/-- The answers to requests, one after another whether or not they succeed, and the state after
all of them. -/
def answerAll (session : Session) (parser : SourceParser) :
    List Request → CompilerState →
      List (Except CompileError (List CompiledFunction)) × CompilerState
  | [], state => ([], state)
  | request :: rest, state =>
    let (first, between) := session.answer parser request state
    let (others, after) := session.answerAll parser rest between
    (first :: others, after)

/-! ## What a run should do -/

/-- What becomes of a function by itself. -/
def compiled (session : Session) (program : Program) (definition : FunctionDef) :
    Except CompileError CompiledFunction :=
  match definition.compile (session.environment program) with
  | .ok ir => .ok ⟨definition.name, ir.render⟩
  | .error cause => .error (.lowering definition.name cause)

end Session

/-- The tree that a request is about. -/
def Request.tree (parser : SourceParser) : Request → Except CompileError Program
  | .source text _ => (parser.program text).mapError .source
  | .program tree _ => .ok tree

namespace Session

/-- What becomes of each function that a request selects, by itself. -/
def outcomes (session : Session) (parser : SourceParser) (request : Request) :
    Except CompileError (List (Except CompileError CompiledFunction)) := do
  let program ← request.tree parser
  let definitions ← select program request.only
  .ok (definitions.map (session.compiled program))

end Session

/-- The successes in front of the first failure. -/
def successes {ε α : Type} : List (Except ε α) → List α
  | .ok value :: rest => value :: successes rest
  | _ => []

namespace Session

/-- The entries that a request leaves in the state: the functions in front of the first that
fails, and none if there are no functions to compile. -/
def recorded (session : Session) (parser : SourceParser) (request : Request) :
    List (String × String) :=
  match session.outcomes parser request with
  | .ok found => (successes found).map fun function => (function.name, function.text)
  | .error _ => []

/-- The answer that a request should have: all its functions, or the error of the first that
fails. -/
def expected (session : Session) (parser : SourceParser) (request : Request) :
    Except CompileError (List CompiledFunction) :=
  session.outcomes parser request >>= fun found => found.mapM id

end Session

/-! ## What a request asks for -/

/-- The functions that statements define at their own level, in the order of the text. -/
inductive Stmt.Define : List Stmt → List FunctionDef → Prop
  | nil : Define [] []
  | function (pos : Position) (definition : FunctionDef) {rest : List Stmt}
      {others : List FunctionDef} :
      Define rest others → Define (.function pos definition :: rest) (definition :: others)
  | other {stmt : Stmt} {rest : List Stmt} {others : List FunctionDef}
      (plain : ∀ pos definition, stmt ≠ .function pos definition) :
      Define rest others → Define (stmt :: rest) others

/-- The functions of a program that are asked for: all that it defines at the top level, or under
a name the first that has it. A name that none of them has is missing. -/
inductive Program.Picks (program : Program) :
    Option String → Except CompileError (List FunctionDef) → Prop
  | all {definitions : List FunctionDef} :
      Stmt.Define program.body definitions → program.Picks none (.ok definitions)
  | first {before after : List FunctionDef} {definition : FunctionDef} :
      Stmt.Define program.body (before ++ definition :: after) →
      (∀ earlier ∈ before, earlier.name ≠ definition.name) →
      program.Picks (some definition.name) (.ok [definition])
  | missing {definitions : List FunctionDef} {name : String} :
      Stmt.Define program.body definitions →
      (∀ definition ∈ definitions, definition.name ≠ name) →
      program.Picks (some name) (.error (.functionNotFound name))

/-- A function compiles to what is handed out for it. -/
def FunctionDef.Becomes (env : Environment) (definition : FunctionDef)
    (function : CompiledFunction) : Prop :=
  ∃ ir, definition.compile env = .ok ir ∧ function = ⟨definition.name, ir.render⟩

namespace Session

/-- What functions in a row are answered with, and which of them are kept: all of them, or those in
front of the first that fails. -/
inductive Compiles (env : Environment) : List FunctionDef →
    Except CompileError (List CompiledFunction) → List CompiledFunction → Prop
  | all {definitions : List FunctionDef} {functions : List CompiledFunction} :
      List.Forall₂ (FunctionDef.Becomes env) definitions functions →
      Compiles env definitions (.ok functions) functions
  | broken {before after : List FunctionDef} {definition : FunctionDef}
      {functions : List CompiledFunction} {cause : LowerError} :
      List.Forall₂ (FunctionDef.Becomes env) before functions →
      definition.compile env = .error cause →
      Compiles env (before ++ definition :: after) (.error (.lowering definition.name cause))
        functions

/-- What a request is answered with, and the entries that it leaves in the state. A text that is not
read and a name that is missing leave none. -/
inductive Answers (session : Session) (parser : SourceParser) (request : Request) :
    Except CompileError (List CompiledFunction) → List (String × String) → Prop
  | unread {cause : CompileError} : request.tree parser = .error cause →
      session.Answers parser request (.error cause) []
  | missing {program : Program} {cause : CompileError} : request.tree parser = .ok program →
      program.Picks request.only (.error cause) →
      session.Answers parser request (.error cause) []
  | ran {program : Program} {definitions : List FunctionDef}
      {answer : Except CompileError (List CompiledFunction)} {kept : List CompiledFunction} :
      request.tree parser = .ok program →
      program.Picks request.only (.ok definitions) →
      Compiles (session.environment program) definitions answer kept →
      session.Answers parser request answer
        (kept.map fun function => (function.name, function.text))

end Session

/-- What statements define is what the program of them has as its functions. -/
theorem Stmt.define_filterMap (body : List Stmt) :
    Stmt.Define body (body.filterMap Stmt.definition?) := by
  induction body with
  | nil => exact .nil
  | cons stmt rest ih =>
    cases known : stmt.definition? with
    | some definition =>
      obtain ⟨pos, rfl⟩ : ∃ pos, stmt = .function pos definition := by
        cases stmt <;> cases known
        exact ⟨_, rfl⟩
      rw [List.filterMap_cons_some known]
      exact .function pos definition ih
    | none =>
      rw [List.filterMap_cons_none known]
      refine .other ?_ ih
      rintro pos definition rfl
      cases known

/-- Selection gives what is asked for. -/
theorem Program.picks_select (program : Program) (only : Option String) :
    program.Picks only (Session.select program only) := by
  have functions : Stmt.Define program.body program.functions :=
    Stmt.define_filterMap program.body
  cases only with
  | none =>
    rw [Session.select_all]
    exact .all functions
  | some name =>
    cases found : program.functions.find? (·.name == name) with
    | none =>
      have absent : ∀ definition ∈ program.functions, definition.name ≠ name := by
        simpa using found
      rw [Session.select_missing absent]
      exact .missing functions absent
    | some definition =>
      obtain ⟨same, before, after, split, first⟩ := List.find?_eq_some_iff_append.mp found
      obtain rfl : definition.name = name := eq_of_beq same
      have new : ∀ earlier ∈ before, earlier.name ≠ definition.name := by
        simpa using first
      rw [Session.select_first split new]
      exact .first (split ▸ functions) new

/-! ## Registries after many insertions -/

namespace Registry

variable {α : Type}

theorem eraseDups_of_nodup {names : List String} (h : names.Nodup) : names.eraseDups = names := by
  induction names with
  | nil => rfl
  | cons name rest ih =>
    obtain ⟨fresh, distinct⟩ := List.nodup_cons.mp h
    have kept : rest.filter (fun other => !other == name) = rest := by
      rw [List.filter_eq_self]
      intro other found
      have apart : other ≠ name := fun same => fresh (same ▸ found)
      simp [apart]
    rw [List.eraseDups_cons, kept, ih distinct]

theorem eraseDups_concat (names : List String) (name : String) :
    (names ++ [name]).eraseDups =
      if name ∈ names then names.eraseDups else names.eraseDups ++ [name] := by
  rw [List.eraseDups_append, List.cons_removeAll]
  by_cases old : name ∈ names
  · simp [old, List.removeAll]
  · simp [old, List.removeAll, List.eraseDups_cons]

theorem insertAll_append (registry : Registry α) (entries more : List (String × α)) :
    registry.insertAll (entries ++ more) = (registry.insertAll entries).insertAll more :=
  List.foldl_append

/-- The names stand in the order in which they first came. -/
theorem keys_insertAll (registry : Registry α) (entries : List (String × α)) :
    (registry.insertAll entries).entries.map Prod.fst =
      ((registry.entries ++ entries).map Prod.fst).eraseDups := by
  induction entries using List.reverseRecOn with
  | nil =>
    rw [List.append_nil]
    exact (eraseDups_of_nodup registry.nodup).symm
  | append_singleton entries entry ih =>
    obtain ⟨name, value⟩ := entry
    rw [insertAll_append, ← List.append_assoc, List.map_append, List.map_singleton,
      eraseDups_concat, ← ih]
    change (put name value (registry.insertAll entries).entries).map Prod.fst = _
    have known : name ∈ (registry.insertAll entries).entries.map Prod.fst ↔
        name ∈ (registry.entries ++ entries).map Prod.fst := by
      rw [ih, List.mem_eraseDups]
    simp only [keys_put, known]

/-- The value under a name is the last one that came, or the one it had before. -/
theorem get?_insertAll (registry : Registry α) (entries : List (String × α)) (name : String) :
    (registry.insertAll entries).get? name =
      (find? name entries.reverse).or (registry.get? name) := by
  induction entries using List.reverseRecOn with
  | nil => rfl
  | append_singleton entries entry ih =>
    obtain ⟨other, value⟩ := entry
    rw [insertAll_append, List.reverse_append]
    change ((registry.insertAll entries).insert other value).get? name = _
    rw [get?_insert, ih, List.reverse_singleton, List.singleton_append, find?]
    by_cases same : other = name
    · rw [if_pos same, if_pos same, Option.some_or]
    · rw [if_neg same, if_neg same]

end Registry

/-! ## One request -/

namespace Session

variable (session : Session)

/-- Compiling functions one after another gives what becomes of each by itself, up to the first
failure, and records those in front of it. -/
theorem compileEach_eq (program : Program) (definitions : List FunctionDef)
    (state : CompilerState) :
    compileEach (session.environment program) definitions state =
      ((definitions.map (session.compiled program)).mapM id,
        state.insertAll ((successes (definitions.map (session.compiled program))).map
          fun function => (function.name, function.text))) := by
  induction definitions generalizing state with
  | nil => rfl
  | cons definition rest ih =>
    rw [compileEach, List.map_cons, List.mapM_cons, compiled]
    cases definition.compile (session.environment program) with
    | error cause => rfl
    | ok ir =>
      simp only [ih]
      rfl

/-- A request is answered as expected and leaves what it records in the state. -/
theorem answer_eq (parser : SourceParser) (request : Request) (state : CompilerState) :
    session.answer parser request state =
      (session.expected parser request, state.insertAll (session.recorded parser request)) := by
  have ofTree (tree : Program) (only : Option String) :
      session.compileProgram tree only state =
        (session.expected parser (.program tree only),
          state.insertAll (session.recorded parser (.program tree only))) := by
    unfold compileProgram expected recorded outcomes
    rw [Request.tree, Request.only, except_ok_bind]
    cases select tree only with
    | error cause => rfl
    | ok definitions => exact session.compileEach_eq tree definitions state
  cases request with
  | program tree only => exact ofTree tree only
  | source text only =>
    change session.compileText parser text only state = _
    rw [compileText]
    cases read : parser.program text with
    | error cause =>
      have failed : session.outcomes parser (.source text only) = .error (.source cause) := by
        rw [outcomes, Request.tree, read]
        rfl
      rw [expected, recorded, failed]
      rfl
    | ok tree =>
      -- A text that reads as a tree is treated as the tree itself.
      have same : session.outcomes parser (.source text only) =
          session.outcomes parser (.program tree only) := by
        rw [outcomes, outcomes, Request.tree, Request.tree, read]
        rfl
      rw [expected, recorded, same]
      exact ofTree tree only

/-- Functions in a row are answered with what becomes of each by itself, up to the first failure,
and those in front of it are kept. -/
theorem compiles_each (program : Program) (definitions : List FunctionDef) :
    Compiles (session.environment program) definitions
      ((definitions.map (session.compiled program)).mapM id)
      (successes (definitions.map (session.compiled program))) := by
  induction definitions with
  | nil => exact .all .nil
  | cons definition rest ih =>
    rw [List.map_cons, List.mapM_cons, compiled]
    cases found : definition.compile (session.environment program) with
    | error cause => exact @Compiles.broken _ [] _ _ _ _ .nil found
    | ok ir =>
      have becomes : definition.Becomes (session.environment program)
          ⟨definition.name, ir.render⟩ := ⟨ir, found, rfl⟩
      dsimp only [id, successes]
      generalize (rest.map (session.compiled program)).mapM id = answer at ih
      cases ih with
      | all others => exact .all (.cons becomes others)
      | broken others failed =>
        exact @Compiles.broken _ (definition :: _) _ _ _ _ (.cons becomes others) failed

/-- The expected answer of a request and what it records are those of the functions that it asks
for. -/
theorem answers_expected (parser : SourceParser) (request : Request) :
    session.Answers parser request (session.expected parser request)
      (session.recorded parser request) := by
  unfold expected recorded outcomes
  cases read : request.tree parser with
  | error cause => exact .unread read
  | ok program =>
    rw [except_ok_bind]
    have picked := program.picks_select request.only
    cases chosen : select program request.only with
    | error cause => exact .missing read (chosen ▸ picked)
    | ok definitions =>
      exact .ran read (chosen ▸ picked) (session.compiles_each program definitions)

/-- Requests are answered one by one as each should be, and what they record adds up. -/
theorem answerAll_eq (parser : SourceParser) (requests : List Request) (start : CompilerState) :
    session.answerAll parser requests start =
      (requests.map (session.expected parser),
        start.insertAll (requests.flatMap (session.recorded parser))) := by
  induction requests generalizing start with
  | nil => rfl
  | cons request rest ih =>
    rw [answerAll, answer_eq]
    simp only [ih]
    rw [List.map_cons, List.flatMap_cons, Registry.insertAll_append]

end Session

/-! ## The law -/

/-- Over any run of requests, a session answers each one with all its functions or with the first
error, whatever was compiled before, and its state takes up the functions in front of the first
failure of each, in order. The functions of a request are all those at the top level of its program,
or the first one under the name that it asks for. So the state holds every name once, in the order
of the first successes, with the text of the last success or else the one it had at the start. -/
theorem the_state_is_what_succeeded_so_far (session : Session) (parser : SourceParser)
    (requests : List Request) (start : CompilerState) :
    let recorded := requests.flatMap (session.recorded parser)
    let (answers, state) := session.answerAll parser requests start
    (∀ request, session.Answers parser request (session.expected parser request)
      (session.recorded parser request)) ∧
      answers = requests.map (session.expected parser) ∧
      state = start.insertAll recorded ∧
      state.entries.map Prod.fst = ((start.entries ++ recorded).map Prod.fst).eraseDups ∧
      ∀ name, state.get? name =
        (Registry.find? name recorded.reverse).or (start.get? name) := by
  rw [session.answerAll_eq]
  refine ⟨session.answers_expected parser, rfl, rfl, ?_, ?_⟩
  · exact Registry.keys_insertAll start _
  · intro name
    exact Registry.get?_insertAll start _ name

/-- A function without parameters that returns a number: `def f(): return n`, from a line on. -/
def FunctionDef.constantly (name : String) (value : Int64) (line : UInt32) : FunctionDef :=
  .mk name [] [.ret ⟨line + 1, 4⟩ (some (.number ⟨line + 1, 11⟩ (.int value)))] ⟨line, 0⟩

/-- A program that defines `g` and, twice, `f`. -/
def Program.redefining : Program where
  body := [.function ⟨1, 0⟩ (.constantly "f" 1 1), .function ⟨4, 0⟩ (.constantly "g" 2 4),
    .function ⟨7, 0⟩ (.constantly "f" 3 7)]

/-- A program whose second function has a form that does not compile. -/
def Program.breaking : Program where
  body := [.function ⟨1, 0⟩ (.constantly "h" 4 1),
    .function ⟨4, 0⟩ (.mk "g" [] [.unknown ⟨5, 4⟩ "import_statement"] ⟨4, 0⟩),
    .function ⟨7, 0⟩ (.constantly "k" 5 7)]

theorem a_failure_leaves_what_came_before_it :
    let parser : SourceParser := { parse? := fun _ => none }
    let (answers, state) := Session.answerAll default parser
      [.program .redefining none, .program .redefining (some "f"), .source "def" none,
        .program .redefining (some "k"), .program .breaking none] .empty
    answers =
        [.ok [⟨"f", "define$1$0(f$1$0, 1)"⟩, ⟨"g", "define$4$0(g$4$0, 2)"⟩,
            ⟨"f", "define$7$0(f$7$0, 3)"⟩],
          .ok [⟨"f", "define$1$0(f$1$0, 1)"⟩], .error (.source .failed),
          .error (.functionNotFound "k"),
          .error (.lowering "g" (.unsupportedNode "import_statement" ⟨5, 4⟩))] ∧
      state.entries.map Prod.fst = ["f", "g", "h"] ∧
      state.get? "f" = some "define$1$0(f$1$0, 1)" ∧ state.get? "k" = none := by
  obtain ⟨_, answers, _, names, texts⟩ :=
    the_state_is_what_succeeded_so_far default { parse? := fun _ => none }
      [.program .redefining none, .program .redefining (some "f"), .source "def" none,
        .program .redefining (some "k"), .program .breaking none] .empty
  refine ⟨answers.trans ?_, names.trans ?_, (texts "f").trans ?_, (texts "k").trans ?_⟩ <;>
    decide +kernel

end CallForm
