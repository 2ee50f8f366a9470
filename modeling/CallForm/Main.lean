-- The command line program: it reads the files that the command names,
-- runs the command on them, and prints or writes what comes of it.
import CallForm.CommandLine.Run

namespace CallForm

namespace CommandLine

/-- The cause behind a failed access to a file. -/
def fileError : IO.Error → FileError
  | .noFileOrDirectory .. => .notFound
  | .inappropriateType .. => .isFolder
  | cause => .other (toString cause)

/-- The text of a file on disk. -/
def readFile (path : String) : IO (Except FileError String) := do
  try return textOf (← IO.FS.readBinFile path)
  catch cause => return .error (fileError cause)

/-- Writes a text to a file on disk. -/
def writeFile (path text : String) : IO (Except FileError Unit) := do
  try
    IO.FS.writeFile path text
    return .ok ()
  catch cause => return .error (fileError cause)

/-- Runs a command on the files on disk. -/
def runCommand (command : Command) : IO Ending := do
  let texts ← command.inputs.mapM fun path => return (path, ← readFile path)
  let read : Reader := fun path => (texts.lookup path).getD (.error .notFound)
  match command.run read with
  | .ok (.print text) => return { output := text }
  | .ok (.save path text count) => return endSave path count (← writeFile path text)
  | .error report => return endReport report

/-- Runs what the words on a command line ask for. -/
def runWords (words : List String) : IO Ending :=
  match read words with
  | .command command => runCommand command
  | other => return endOther other

end CommandLine

end CallForm

/-- Runs the command line, prints what comes of it, and ends with its exit code. -/
def main (words : List String) : IO UInt32 := do
  let ending ← CallForm.CommandLine.runWords words
  (← IO.getStdout).putStr ending.output
  (← IO.getStderr).putStr ending.messages
  return ending.code.toUInt32
