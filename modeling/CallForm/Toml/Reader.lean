-- Reading a configuration text.
import CallForm.Toml.Scalar
import CallForm.Toml.Table

namespace CallForm

namespace Toml

/-! ## Values -/

/-- The items of an array after its opening bracket. -/
def readItems (read : List Char → Option (Toml × List Char)) :
    Nat → List Char → Option (List Toml × List Char)
  | 0, _ => none
  | fuel + 1, text =>
    match skipGaps false text with
    | ']' :: rest => some ([], rest)
    | start => do
      let (item, rest) ← read start
      match skipGaps false rest with
      | ',' :: rest => do
        let (items, rest) ← readItems read fuel rest
        some (item :: items, rest)
      | ']' :: rest => some ([item], rest)
      | _ => none

/-- A key, an equals sign and a value. -/
def readPair (read : List Char → Option (Toml × List Char)) (text : List Char) :
    Option (Pair × List Char) := do
  let (parts, rest) ← readKey text
  let rest ← dropChar? '=' rest
  let (value, rest) ← read (skipBlanks rest)
  some (⟨parts, value⟩, rest)

/-- The pairs between braces, of which there is one at least. -/
def readPairs (read : List Char → Option (Toml × List Char)) :
    Nat → List Char → Option (List Pair × List Char)
  | 0, _ => none
  | fuel + 1, text => do
    let (pair, rest) ← readPair read text
    match skipBlanks rest with
    | ',' :: rest => do
      let (pairs, rest) ← readPairs read fuel rest
      some (pair :: pairs, rest)
    | '}' :: rest => some ([pair], rest)
    | _ => none

/-- A table after its opening brace. -/
def readBraces (read : List Char → Option (Toml × List Char)) (text : List Char) :
    Option (Toml × List Char) :=
  match skipBlanks text with
  | '}' :: rest => some (.table .inline [], rest)
  | _ => do
    let (pairs, rest) ← readPairs read (text.length + 1) text
    let entries ← addPairs [] pairs
    some (.table .inline entries, rest)

/-- A value at the start of a text, with at most `depth` arrays and tables inside each other. -/
def readValue : (depth : Nat) → List Char → Option (Toml × List Char)
  | 0, text => readScalar text
  | depth + 1, text =>
    match text with
    | '[' :: rest =>
      (readItems (readValue depth) (rest.length + 1) rest).map fun (items, rest) =>
        (.array items, rest)
    | '{' :: rest => readBraces (readValue depth) rest
    | _ => readScalar text

/-! ## Lines -/

/-- A line that is not empty. -/
inductive Line
  | header (path : List String) (repeated : Bool)
  | pair (value : Pair)

/-- A header after its opening bracket. -/
def readHeader (text : List Char) : Option (Line × List Char) :=
  match text with
  | '[' :: rest => do
    let (path, rest) ← readKey rest
    let rest ← dropChar? ']' rest
    let rest ← dropChar? ']' rest
    some (.header path true, rest)
  | _ => do
    let (path, rest) ← readKey text
    let rest ← dropChar? ']' rest
    some (.header path false, rest)

/-- The lines of a text. -/
def readLines : Nat → List Char → Option (List Line)
  | 0, _ => none
  | fuel + 1, text =>
    match skipGaps false text with
    | [] => some []
    | '[' :: rest => do
      let (line, rest) ← readHeader rest
      let rest ← restOfLine? rest
      let lines ← readLines fuel rest
      some (line :: lines)
    | start => do
      let (pair, rest) ← readPair (readValue nestLimit) start
      let rest ← restOfLine? rest
      let lines ← readLines fuel rest
      some (.pair pair :: lines)

/-- The pairs before the first header, and the sections. -/
def sectionsOf : List Line → List Pair × List Section
  | [] => ([], [])
  | .pair value :: rest =>
    let (pairs, sections) := sectionsOf rest
    (value :: pairs, sections)
  | .header path repeated :: rest =>
    let (pairs, sections) := sectionsOf rest
    ([], ⟨path, repeated, pairs⟩ :: sections)

/-- A text without the mark of its byte order. -/
def dropMark : List Char → List Char
  | '\ufeff' :: rest => rest
  | text => text

/-- The entries of a configuration text, if it is one. -/
def read? (text : String) : Option TomlEntries := do
  let chars := dropMark text.toList
  let lines ← readLines (chars.length + 1) chars
  let (pairs, sections) := sectionsOf lines
  document pairs sections

end Toml

end CallForm
