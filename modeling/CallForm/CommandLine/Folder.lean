-- Files by their paths: a folder held in memory, in which every folder on
-- the way to a file exists.
import CallForm.Registry

namespace CallForm

/-! ## What can go wrong -/

/-- The reasons for a file not to be read or written. -/
inductive FileError
  | notFound
  | isFolder
  | notFolder
  | notText
  | other (text : String)
deriving Repr, DecidableEq

/-- The sentence that tells the cause. -/
def FileError.message : FileError → String
  | .notFound => "No such file or directory (os error 2)"
  | .isFolder => "Is a directory (os error 21)"
  | .notFolder => "Not a directory (os error 20)"
  | .notText => "stream did not contain valid UTF-8"
  | .other text => text

/-- The text that the bytes of a file hold. -/
def textOf (bytes : ByteArray) : Except FileError String :=
  match String.fromUTF8? bytes with
  | some text => .ok text
  | none => .error .notText

/-! ## Folders -/

/-- Files under their paths; the steps of a path are parted by one slash each. -/
structure Folder where
  files : Registry ByteArray

namespace Folder

/-- What there is at the end of a path. -/
inductive Place
  | folder
  | file (bytes : ByteArray)
  | vacant

/-- The path made of some steps. -/
def pathOf (steps : List String) : String := "/".intercalate steps

/-- What there is after some steps. -/
def placeOf (folder : Folder) (steps : List String) : Place :=
  match folder.files.get? (pathOf steps) with
  | some bytes => .file bytes
  | none =>
    if steps.isEmpty ||
        folder.files.entries.any fun entry => entry.1.startsWith (pathOf steps ++ "/") then
      .folder
    else .vacant

/-- Goes on from a place by more steps. Only a folder leads further, and nothing is known above
the outermost one. -/
def walk (folder : Folder) (place : List String) : List String → Except FileError (List String)
  | [] => .ok place
  | step :: rest =>
    match folder.placeOf place with
    | .file _ => .error .notFolder
    | .vacant => .error .notFound
    | .folder =>
      if step = "" ∨ step = "." then walk folder place rest
      else if step = ".." then
        if place.isEmpty then .error .notFound else walk folder place.dropLast rest
      else walk folder (place ++ [step]) rest

/-- The steps of a path that starts in the folder. -/
def stepsOf (path : String) : Except FileError (List String) :=
  match path.splitOn "/" with
  | [] | [""] | "" :: _ => .error .notFound
  | steps => .ok steps

/-- The text of a file. -/
def read (folder : Folder) (path : String) : Except FileError String := do
  let place ← folder.walk [] (← stepsOf path)
  match folder.placeOf place with
  | .file bytes => textOf bytes
  | .folder => .error .isFolder
  | .vacant => .error .notFound

/-- Writes a text to a file, which comes to be if it is missing. A path that ends in a slash
names no file. -/
def write (folder : Folder) (path text : String) : Except FileError Folder := do
  let steps ← stepsOf path
  let bare := (steps.reverse.dropWhile (· == "")).reverse
  let parent ← folder.walk [] bare.dropLast
  match folder.placeOf parent, bare.getLast? with
  | .file _, _ => .error .notFolder
  | .vacant, _ | _, none => .error .notFound
  | .folder, some name =>
    if bare.length < steps.length || name == "." || name == ".." then .error .isFolder
    else
      match folder.placeOf (parent ++ [name]) with
      | .folder => .error .isFolder
      | _ => .ok ⟨folder.files.insert (pathOf (parent ++ [name])) text.toUTF8⟩

end Folder

end CallForm
