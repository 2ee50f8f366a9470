-- What the words on a command line ask for.
namespace CallForm

namespace CommandLine

/-! ## Commands -/

/-- The ways of printing compiled text: with its tags, without them, or without them and with
one argument a line. -/
inductive Rendering
  | tagged | stripped | pretty
deriving Repr, DecidableEq, Inhabited

/-- What can be asked for. -/
inductive Command
  | compile (path : String) (function config : Option String) (rendering : Rendering)
      (output : Option String)
  | lower (path : String) (config : Option String)
  | ast (path : String) (function : Option String)
  | fmt (path : String)
deriving Repr, DecidableEq

/-- The meaning of a command line. -/
inductive Request
  | command (value : Command)
  | help
  | version
  | misuse
deriving Repr, DecidableEq

/-! ## Switches -/

/-- The names of the commands. -/
inductive Verb
  | compile | lower | ast | fmt
deriving Repr, DecidableEq

/-- The switches that take a value. -/
inductive Setting
  | function | config | output
deriving Repr, DecidableEq

/-- The switches that take none. -/
inductive Flag
  | pretty | stripTags | verbose | help | version
deriving Repr, DecidableEq

/-- A switch of either sort. -/
inductive Switch
  | setting (value : Setting)
  | flag (value : Flag)
deriving Repr, DecidableEq

/-- The command of a name. -/
def Verb.ofName? : String → Option Verb
  | "compile" => some .compile
  | "lower" => some .lower
  | "ast" => some .ast
  | "fmt" => some .fmt
  | _ => none

/-- The switch of a long name. -/
def Switch.ofLong? : String → Option Switch
  | "function" => some (.setting .function)
  | "config" => some (.setting .config)
  | "output" => some (.setting .output)
  | "pretty" => some (.flag .pretty)
  | "strip-tags" => some (.flag .stripTags)
  | "verbose" => some (.flag .verbose)
  | "help" => some (.flag .help)
  | "version" => some (.flag .version)
  | _ => none

/-- The switch of a short name. -/
def Switch.ofShort? : Char → Option Switch
  | 'o' => some (.setting .output)
  | 'v' => some (.flag .verbose)
  | 'h' => some (.flag .help)
  | 'V' => some (.flag .version)
  | _ => none

/-- Whether a switch may follow the name of a command, or, without one, stand before it. -/
def Switch.fits : Option Verb → Switch → Bool
  | _, .flag .verbose | _, .flag .help => true
  | none, switch => switch == .flag .version
  | some .compile, switch => switch != .flag .version
  | some .lower, switch => switch == .setting .config
  | some .ast, switch => switch == .setting .function
  | some .fmt, _ => false

/-! ## What has been set so far -/

/-- The values given on a command line up to some word. -/
structure Draft where
  path : Option String := none
  function : Option String := none
  config : Option String := none
  output : Option String := none
  pretty : Bool := false
  stripTags : Bool := false
deriving Repr, Inhabited

namespace Draft

/-- Gives a value that must not have been given before. -/
def once {α : Type} (old : Option α) (draft : Draft) : Option Draft :=
  if old.isSome then none else some draft

/-- Sets a value; no path may be empty. -/
def set (draft : Draft) (setting : Setting) (value : String) : Option Draft :=
  match setting with
  | .function => once draft.function { draft with function := some value }
  | .config => if value = "" then none else once draft.config { draft with config := some value }
  | .output => if value = "" then none else once draft.output { draft with output := some value }

/-- Sets the path that a command works on. -/
def setPath (draft : Draft) (value : String) : Option Draft :=
  if value = "" then none else once draft.path { draft with path := some value }

/-- Sets a flag of the printing, which must not be set twice. -/
def setFlag (draft : Draft) : Flag → Option Draft
  | .pretty => if draft.pretty then none else some { draft with pretty := true }
  | .stripTags => if draft.stripTags then none else some { draft with stripTags := true }
  | _ => some draft

/-- The printing that the flags ask for; they exclude each other. -/
def rendering? (draft : Draft) : Option Rendering :=
  match draft.pretty, draft.stripTags with
  | true, true => none
  | true, false => some .pretty
  | false, true => some .stripped
  | false, false => some .tagged

/-- The request at the end of a command line. -/
def finish (draft : Draft) (verb : Verb) : Request :=
  match draft.path, draft.rendering? with
  | some path, some rendering =>
    .command <|
      match verb with
      | .compile => .compile path draft.function draft.config rendering draft.output
      | .lower => .lower path draft.config
      | .ast => .ast path draft.function
      | .fmt => .fmt path
  | _, _ => .misuse

end Draft

/-! ## Words -/

/-- What a word is by its looks: two dashes alone, a long name with an attached value or without
one, a row of short names, or none of these. -/
inductive Word
  | escape
  | long (name : String) (attached : Option String)
  | short (names : List Char)
  | plain
deriving Repr, DecidableEq

/-- The part of a text before its first equals sign, and the part after it. -/
def splitEquals : List Char → List Char × Option (List Char)
  | [] => ([], none)
  | c :: rest =>
    if c = '=' then ([], some rest)
    else
      let (before, after) := splitEquals rest
      (c :: before, after)

/-- What a word is by its looks. -/
def Word.ofText (text : String) : Word :=
  match text.toList with
  | ['-', '-'] => .escape
  | '-' :: '-' :: rest =>
    let (name, attached) := splitEquals rest
    .long (String.ofList name) (attached.map String.ofList)
  | '-' :: c :: rest => .short (c :: rest)
  | _ => .plain

/-- What a word of switches leads to: what is set then and the setting that waits for its value,
or a request at once. -/
inductive Step
  | go (draft : Draft) (waiting : Option Setting)
  | stop (request : Request)

/-- The step of a flag. -/
def stepFlag (draft : Draft) (flag : Flag) : Step :=
  match flag with
  | .help => .stop .help
  | .version => .stop .version
  | _ =>
    match draft.setFlag flag with
    | some draft => .go draft none
    | none => .stop .misuse

/-- The step of a setting with its value. -/
def stepSetting (draft : Draft) (setting : Setting) (value : String) : Step :=
  match draft.set setting value with
  | some draft => .go draft none
  | none => .stop .misuse

/-- The step of a long name. -/
def stepLong (verb : Option Verb) (draft : Draft) (name : String) (attached : Option String) :
    Step :=
  match (Switch.ofLong? name).filter (Switch.fits verb), attached with
  | some (.setting setting), some value => stepSetting draft setting value
  | some (.setting setting), none => .go draft (some setting)
  | some (.flag flag), none => stepFlag draft flag
  | some (.flag _), some _ | none, _ => .stop .misuse

/-- The step of a row of short names. What follows the name of a setting is its value. -/
def stepShort (verb : Option Verb) (draft : Draft) : List Char → Step
  | [] => .go draft none
  | c :: rest =>
    match (Switch.ofShort? c).filter (Switch.fits verb), rest with
    | some (.setting setting), [] => .go draft (some setting)
    | some (.setting setting), '=' :: value => stepSetting draft setting (String.ofList value)
    | some (.setting setting), value => stepSetting draft setting (String.ofList value)
    | some (.flag flag), _ =>
      match stepFlag draft flag with
      | .go draft _ => stepShort verb draft rest
      | stop => stop
    | none, _ => .stop .misuse

/-! ## Command lines -/

/-- The request of words that are paths, whatever they look like. -/
def readPaths (verb : Verb) (draft : Draft) : List String → Request
  | [] => draft.finish verb
  | word :: rest =>
    match draft.setPath word with
    | some draft => readPaths verb draft rest
    | none => .misuse

/-- The request of the words after the name of a command. A setting that waits for its value
takes the next word unless that looks like a switch. -/
def readWords (verb : Verb) (draft : Draft) (waiting : Option Setting) : List String → Request
  | [] => if waiting.isSome then .misuse else draft.finish verb
  | word :: rest =>
    match Word.ofText word, waiting with
    | .plain, some setting =>
      match draft.set setting word with
      | some draft => readWords verb draft none rest
      | none => .misuse
    | .plain, none =>
      match draft.setPath word with
      | some draft => readWords verb draft none rest
      | none => .misuse
    | _, some _ => .misuse
    | .escape, none => readPaths verb draft rest
    | .long name attached, none =>
      match stepLong (some verb) draft name attached with
      | .go draft waiting => readWords verb draft waiting rest
      | .stop request => request
    | .short names, none =>
      match stepShort (some verb) draft names with
      | .go draft waiting => readWords verb draft waiting rest
      | .stop request => request

/-- The request of the words after `help`: help on a command that exists. -/
def readHelp : List String → Request
  | [] => .help
  | [name] => if (Verb.ofName? name).isSome || name == "help" then .help else .misuse
  | _ => .misuse

/-- The request of a whole command line. -/
def read : List String → Request
  | [] => .misuse
  | word :: rest =>
    match Word.ofText word with
    | .plain =>
      match Verb.ofName? word with
      | some verb => readWords verb {} none rest
      | none => if word = "help" then readHelp rest else .misuse
    | .escape => .misuse
    | .long name attached =>
      match stepLong none {} name attached with
      | .go _ _ => read rest
      | .stop request => request
    | .short names =>
      match stepShort none {} names with
      | .go _ _ => read rest
      | .stop request => request

end CommandLine

end CallForm
