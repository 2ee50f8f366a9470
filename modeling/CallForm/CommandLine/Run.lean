-- What the commands do: from the texts of files to what is printed, what
-- is written and what is reported.
import CallForm.CommandLine.Arguments
import CallForm.CommandLine.Folder
import CallForm.Ir.Layout
import CallForm.Json.Printer
import CallForm.Json.Reader
import CallForm.Session.Basic
import CallForm.Session.ConfigReader
import CallForm.Tree.Decode
import CallForm.Tree.Encode

namespace CallForm

namespace CommandLine

/-! ## Reports -/

/-- A failure: what failed, the short name of the cause if it has one, and what lies behind it. -/
structure Report where
  code : Option String := none
  message : String
  causes : List String := []
deriving Repr, DecidableEq

/-- The lines that tell a failure. -/
def Report.text (report : Report) : String :=
  let headline :=
    match report.code with
    | some code => "error[" ++ code ++ "]"
    | none => "error"
  headline ++ ": " ++ report.message ++ "\n" ++
    String.join (report.causes.map fun cause => "  caused by: " ++ cause ++ "\n")

/-- A failure to compile, with what was being done. -/
def reportCompile (doing : String) (cause : CompileError) : Report where
  code := some cause.code
  message := doing
  causes := cause.message :: cause.reasons

/-! ## Parts of the commands -/

/-- Where the texts of files come from. -/
abbrev Reader := String → Except FileError String

/-- The text of the file that a command works on. -/
def readInput (read : Reader) (path : String) : Except Report String :=
  (read path).mapError fun cause =>
    { message := "failed to read " ++ path, causes := [cause.message] }

/-- The session of a configuration file, or of no configuration. -/
def loadSession (read : Reader) : Option String → Except Report Session
  | none => .ok (Session.ofConfig {})
  | some path => do
    let text ← (read path).mapError fun cause =>
      { code := some "driver::config_read"
        message := "failed to read config file " ++ path
        causes := [cause.message] }
    let config ← (Config.ofText text).mapError fun cause =>
      { code := some "driver::config_parse"
        message := "failed to parse config file " ++ path
        causes := [cause.message] }
    .ok (Session.ofConfig config)

/-- The lines of one compiled function. -/
def block (rendering : Rendering) (function : CompiledFunction) : String :=
  match rendering with
  | .tagged => function.name ++ ": " ++ function.text ++ "\n"
  | .stripped => function.name ++ ": " ++ stripTags function.text ++ "\n"
  | .pretty => function.name ++ ":\n" ++ layOut function.text

/-- The lines of compiled functions. -/
def listing (rendering : Rendering) (functions : List CompiledFunction) : String :=
  String.join (functions.map (block rendering))

/-! ## Commands -/

/-- What a command that did not fail does in the end: it prints a text, or writes the listing of
some functions to a file. -/
inductive Effect
  | print (text : String)
  | save (path text : String) (count : Nat)
deriving Repr, DecidableEq

/-- Compiles a source file. -/
def compileFile (read : Reader) (path : String) (function config : Option String)
    (rendering : Rendering) (output : Option String) : Except Report Effect := do
  let text ← readInput read path
  let session ← loadSession read config
  let functions ← (session.compileSource text function Registry.empty).1.mapError
    (reportCompile ("failed to compile " ++ path))
  let lines := listing rendering functions
  match output with
  | some target => .ok (.save target lines functions.length)
  | none => .ok (.print lines)

/-- Compiles a file that holds a serialized tree. -/
def lowerFile (read : Reader) (path : String) (config : Option String) :
    Except Report Effect := do
  let text ← readInput read path
  match (Json.read? text).bind (Program.decode? .text) with
  | none =>
    .error
      { message := path ++ " is not a serialized syntax tree"
        causes := ["not the form of a module"] }
  | some program => do
    let session ← loadSession read config
    let functions ← (session.compileProgram program none Registry.empty).1.mapError
      (reportCompile ("failed to compile " ++ path))
    .ok (.print (listing .tagged functions))

/-- Prints the tree of a source file, or of one function in it. -/
def dumpFile (read : Reader) (path : String) (function : Option String) :
    Except Report Effect := do
  let text ← readInput read path
  let program ← (Program.ofSource text).mapError fun cause =>
    reportCompile ("failed to parse " ++ path) (.source cause)
  match function with
  | none => .ok (.print (program.encode.pretty 0 ++ "\n"))
  | some name =>
    match program.function? name with
    | some definition => .ok (.print (definition.encode.pretty 0 ++ "\n"))
    | none =>
      let cause := CompileError.functionNotFound name
      .error { code := some cause.code, message := cause.message }

/-- Prints a compiled text with one argument a line. -/
def formatFile (read : Reader) (path : String) : Except Report Effect := do
  let text ← readInput read path
  .ok (.print (layOut text))

/-- What a command does, given the texts of files. -/
def Command.run (read : Reader) : Command → Except Report Effect
  | .compile path function config rendering output =>
    compileFile read path function config rendering output
  | .lower path config => lowerFile read path config
  | .ast path function => dumpFile read path function
  | .fmt path => formatFile read path

/-- The files that a command reads. -/
def Command.inputs : Command → List String
  | .compile path _ config _ _ | .lower path config => path :: config.toList
  | .ast path _ | .fmt path => [path]

/-! ## Endings -/

/-- What a run leaves behind: its exit code and what it printed to either channel. -/
structure Ending where
  code : UInt8 := 0
  output : String := ""
  messages : String := ""
deriving Repr, DecidableEq

/-- The name and version of the program. -/
def versionText : String := "pxc 0.1.0\n"

/-- How the program is used. -/
def usageText : String :=
  "PhySL compiler\n\nUsage: pxc [OPTIONS] <COMMAND>\n\nCommands:\n" ++
    "  compile  Compile the functions of a source file to IR\n" ++
    "  lower    Compile a syntax tree serialized as JSON\n" ++
    "  ast      Dump the syntax tree of a source file as JSON\n" ++
    "  fmt      Pretty-print an IR file\n" ++
    "  help     Print this message or the help of the given subcommand(s)\n\nOptions:\n" ++
    "  -v, --verbose...  Raise the log level (repeatable)\n" ++
    "  -h, --help        Print help\n" ++
    "  -V, --version     Print version\n"

/-- The ending of a failed run. -/
def endReport (report : Report) : Ending :=
  { code := 1, messages := report.text }

/-- The ending of a run that has written a file, or has failed to. -/
def endSave (path : String) (count : Nat) (written : Except FileError Unit) : Ending :=
  match written with
  | .ok () =>
    { messages := "Wrote " ++ toString count ++ " functions to " ++ path ++ "\n" }
  | .error cause =>
    endReport { message := "failed to write " ++ path, causes := [cause.message] }

/-- The ending of a run that does not name a command. -/
def endOther : Request → Ending
  | .version => { output := versionText }
  | .help => { output := usageText }
  | _ => { code := 2, messages := usageText }

/-- A run in a folder, and the folder after it. -/
def runIn (folder : Folder) (words : List String) : Ending × Folder :=
  match read words with
  | .command command =>
    match command.run folder.read with
    | .ok (.print text) => ({ output := text }, folder)
    | .ok (.save path text count) =>
      match folder.write path text with
      | .ok after => (endSave path count (.ok ()), after)
      | .error cause => (endSave path count (.error cause), folder)
    | .error report => (endReport report, folder)
  | other => (endOther other, folder)

end CommandLine

end CallForm
