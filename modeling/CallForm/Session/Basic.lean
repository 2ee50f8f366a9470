-- Sessions: many programs compiled under one configuration, with a record
-- of what was compiled under which name.
import CallForm.Lowering.Node
import CallForm.Source.Reading

namespace CallForm

/-! ## Settings -/

/-- The settings of a session. Of a module that is imported, `imports` names the catalogue
that lists its members. -/
structure Config where
  groupAggressively : Bool := true
  references : Registry String := Registry.empty
  modules : Registry (List String) := Registry.empty
  imports : Registry String := Registry.empty
deriving Inhabited

/-- The catalogue for an imported module: the configured one, else the one of its own name. -/
def Config.catalogueFor (config : Config) (source : String) : String :=
  (config.imports.get? source).getD source

/-! ## Modules whose members are known without a configuration -/

namespace Catalogue

/-- The top-level members of the numeric array library. -/
def numeric : List String :=
  ["abs", "all", "any", "arange", "argmax", "argmin", "array", "ceil", "clip", "concatenate",
    "cos", "cross", "cumsum", "diag", "diagonal", "dot", "e", "empty", "exp", "eye", "floor",
    "full", "hstack", "identity", "inner", "linalg", "linspace", "log", "matmul", "max", "mean",
    "min", "ones", "outer", "pi", "power", "prod", "random", "reshape", "shape", "sin", "sqrt",
    "square", "stack", "std", "sum", "tan", "tanh", "transpose", "vstack", "where", "zeros"]

/-- The members listed under the name of a catalogue, if there is one of that name. -/
def members? (name : String) : Option (List String) :=
  if name = "numpy" then some numeric else none

end Catalogue

/-! ## What a session hands out -/

/-- The compiled text of one function. -/
structure CompiledFunction where
  name : String
  text : String
deriving Repr, DecidableEq

/-- The compiled text last recorded under each name, in the order in which the names first came. -/
abbrev CompilerState := Registry String

/-- The reasons for a program not to compile. -/
inductive CompileError
  | source (cause : SourceError)
  | lowering (function : String) (cause : LowerError)
  | functionNotFound (name : String)
deriving Repr, DecidableEq

namespace CompileError

/-- The sentence that tells the cause; what lies behind it is told apart from it. -/
def message : CompileError → String
  | .source cause => cause.message
  | .lowering function _ => "failed to lower function `" ++ function ++ "`"
  | .functionNotFound name => "no top-level function named `" ++ name ++ "`"

/-- The short name of the cause. -/
def code : CompileError → String
  | .source cause => cause.code
  | .lowering _ cause => cause.code
  | .functionNotFound _ => "driver::function_not_found"

/-- Advice on what to write instead, where there is any. -/
def help? : CompileError → Option String
  | .source cause => cause.help?
  | .lowering _ cause => cause.help?
  | .functionNotFound _ => none

/-- What lies behind the cause, if anything does. -/
def reasons : CompileError → List String
  | .lowering _ cause => [cause.message]
  | _ => []

end CompileError

/-! ## Sessions -/

/-- A configuration in force, with its reference table merged once. -/
structure Session where
  config : Config
  references : ReferenceTable

namespace Session

/-- The session of a configuration. -/
def ofConfig (config : Config) : Session :=
  ⟨config, ReferenceTable.extended config.references.entries⟩

instance : Inhabited Session := ⟨ofConfig {}⟩

/-- Binds the name of an import to the members of its catalogue, if it has one. -/
def bindImport (config : Config) (bindings : ModuleBindings) (entry : Import) : ModuleBindings :=
  match Catalogue.members? (config.catalogueFor entry.source) with
  | some members => bindings.bind entry.binding members
  | none => bindings

/-- The modules in sight of a program: the configured ones, then those of its imports. -/
def modulesOf (config : Config) (imports : List Import) : ModuleBindings :=
  imports.foldl (bindImport config)
    (config.modules.entries.foldl (fun found (name, members) => found.bind name members) .empty)

/-- What the functions of a program are compiled in. -/
def environment (session : Session) (program : Program) : Environment where
  references := session.references
  modules := modulesOf session.config program.imports
  groupAggressively := session.config.groupAggressively

/-- The functions to compile: all at the top level in source order, or only the first one under
a name. -/
def select (program : Program) : Option String → Except CompileError (List FunctionDef)
  | none => .ok program.functions
  | some name =>
    match program.function? name with
    | some definition => .ok [definition]
    | none => .error (.functionNotFound name)

/-- Without a name, all functions at the top level are selected in source order. -/
theorem select_all (program : Program) : select program none = .ok program.functions := rfl

/-- Under a name, the first function that has it is selected alone. -/
theorem select_first {program : Program} {before after : List FunctionDef}
    {definition : FunctionDef} (split : program.functions = before ++ definition :: after)
    (first : ∀ earlier ∈ before, earlier.name ≠ definition.name) :
    select program (some definition.name) = .ok [definition] := by
  have found : program.function? definition.name = some definition :=
    List.find?_eq_some_iff_append.mpr
      ⟨beq_self_eq_true _, before, after, split, fun earlier listed => by
        simpa using first earlier listed⟩
  rw [select, found]

/-- A name that no function at the top level has is not found. -/
theorem select_missing {program : Program} {name : String}
    (absent : ∀ definition ∈ program.functions, definition.name ≠ name) :
    select program (some name) = .error (.functionNotFound name) := by
  have found : program.function? name = none :=
    List.find?_eq_none.mpr fun definition listed => by
      simpa using absent definition listed
  rw [select, found]

/-- Compiles functions one after another up to the first that fails; each one compiled is
recorded at once, so that those before a failure stay in the state. -/
def compileEach (env : Environment) :
    List FunctionDef → CompilerState → Except CompileError (List CompiledFunction) × CompilerState
  | [], state => (.ok [], state)
  | definition :: rest, state =>
    match definition.compile env with
    | .error cause => (.error (.lowering definition.name cause), state)
    | .ok ir =>
      let (compiled, after) := compileEach env rest (state.insert definition.name ir.render)
      (compiled.map (⟨definition.name, ir.render⟩ :: ·), after)

/-- Compiles the functions of a tree. -/
def compileProgram (session : Session) (program : Program) (only : Option String)
    (state : CompilerState) : Except CompileError (List CompiledFunction) × CompilerState :=
  match select program only with
  | .error cause => (.error cause, state)
  | .ok definitions => compileEach (session.environment program) definitions state

/-- Compiles the functions of a source text that a parser reads. -/
def compileText (session : Session) (parser : SourceParser) (text : String)
    (only : Option String) (state : CompilerState) :
    Except CompileError (List CompiledFunction) × CompilerState :=
  match parser.program text with
  | .error cause => (.error (.source cause), state)
  | .ok program => session.compileProgram program only state

/-- Compiles the functions of a source text that the grammars of this library read. -/
def compileSource (session : Session) (text : String) (only : Option String)
    (state : CompilerState) : Except CompileError (List CompiledFunction) × CompilerState :=
  session.compileText grammarParser text only state

end Session

end CallForm
