-- Reading JSON text.
import CallForm.Json.Numeral
import CallForm.Decimal.Numeral

namespace CallForm

namespace Json

/-! ## Blanks -/

/-- The blanks between the parts of a JSON text. -/
def isBlank (c : Char) : Bool :=
  c == ' ' || c == '\t' || c == '\n' || c == '\r'

/-- A text without the blanks it starts with. -/
def skipBlanks (text : List Char) : List Char := text.dropWhile isBlank

/-! ## Strings -/

/-- A part of a string: a character, or a code unit of 16 bits given by its digits. -/
inductive Piece
  | char (c : Char)
  | unit (value : Nat)

/-- The value of four hexadecimal digits. -/
def hexUnit? (a b c d : Char) : Option Nat := unsigned? 16 [a, b, c, d]

/-- The character that a short escape stands for. -/
def escaped? : Char → Option Char
  | '"' => some '"'
  | '\\' => some '\\'
  | '/' => some '/'
  | 'b' => some '\x08'
  | 'f' => some '\x0c'
  | 'n' => some '\n'
  | 'r' => some '\r'
  | 't' => some '\t'
  | _ => none

/-- The parts of a string after its opening quote, and what follows the closing one. -/
def readPieces : List Char → Option (List Piece × List Char)
  | [] => none
  | '\\' :: 'u' :: a :: b :: c :: d :: rest => do
    let unit ← hexUnit? a b c d
    let (pieces, after) ← readPieces rest
    some (.unit unit :: pieces, after)
  | '\\' :: c :: rest => do
    let char ← escaped? c
    let (pieces, after) ← readPieces rest
    some (.char char :: pieces, after)
  | c :: rest =>
    if c == '"' then some ([], rest)
    else if c == '\\' || c.toNat < 0x20 then none
    else do
      let (pieces, after) ← readPieces rest
      some (.char c :: pieces, after)

/-- The characters of a string; a surrogate without its other half has none. -/
def charsOf : List Piece → Option (List Char)
  | [] => some []
  | .char c :: rest => (charsOf rest).map (c :: ·)
  | .unit high :: .unit low :: rest =>
    if 0xd800 ≤ high ∧ high < 0xdc00 ∧ 0xdc00 ≤ low ∧ low < 0xe000 then
      (charsOf rest).map
        (Char.ofNat (0x10000 + (high - 0xd800) * 0x400 + (low - 0xdc00)) :: ·)
    else if 0xd800 ≤ high ∧ high < 0xe000 then none
    else (charsOf (.unit low :: rest)).map (Char.ofNat high :: ·)
  | .unit value :: rest =>
    if 0xd800 ≤ value ∧ value < 0xe000 then none
    else (charsOf rest).map (Char.ofNat value :: ·)

/-- A string after its opening quote, and what follows; no value if it holds half a surrogate. -/
def readString (text : List Char) : Option (Option String × List Char) := do
  let (pieces, after) ← readPieces text
  some ((charsOf pieces).map String.ofList, after)

/-! ## Values -/

/-- How deep arrays and objects may nest. -/
def nestLimit : Nat := 127

/-- Drops a word that a text starts with. -/
def dropWord? (word : List Char) (text : List Char) : Option (List Char) :=
  if word.isPrefixOf text then some (text.drop word.length) else none

/-- A value that nests too deep has its place only. -/
def within (depth : Nat) (value : Json) : Json :=
  if depth < nestLimit then value else .unreadable

mutual

/-- The value at the start of a text, inside `depth` arrays and objects, and what follows.
The fuel bounds the number of steps; twice the length of the text is enough. -/
def readValue (depth : Nat) : Nat → List Char → Option (Json × List Char)
  | 0, _ => none
  | fuel + 1, text =>
    match skipBlanks text with
    | '"' :: rest => do
      let (value, after) ← readString rest
      some (value.elim .unreadable .string, after)
    | '[' :: rest =>
      match skipBlanks rest with
      | ']' :: after => some (within depth (.array []), after)
      | _ => do
        let (items, after) ← readItems (depth + 1) fuel rest
        some (within depth (.array items), after)
    | '{' :: rest =>
      match skipBlanks rest with
      | '}' :: after => some (within depth (.object []), after)
      | _ => do
        let (entries, after) ← readEntries (depth + 1) fuel rest
        some (within depth (entries.elim .unreadable .object), after)
    | 'n' :: rest => (dropWord? ['u', 'l', 'l'] rest).map (.null, ·)
    | 't' :: rest => (dropWord? ['r', 'u', 'e'] rest).map (.bool true, ·)
    | 'f' :: rest => (dropWord? ['a', 'l', 's', 'e'] rest).map (.bool false, ·)
    | rest => do
      let (numeral, after) ← JsonNumeral.read rest
      some (numeral.value.elim .unreadable .number, after)

/-- The items of an array up to its closing bracket, and what follows. -/
def readItems (depth : Nat) : Nat → List Char → Option (List Json × List Char)
  | 0, _ => none
  | fuel + 1, text => do
    let (item, after) ← readValue depth fuel text
    match skipBlanks after with
    | ',' :: rest => do
      let (items, after) ← readItems depth fuel rest
      some (item :: items, after)
    | ']' :: rest => some ([item], rest)
    | _ => none

/-- The entries of an object up to its closing brace, and what follows; no entries if one of the
names holds half a surrogate. -/
def readEntries (depth : Nat) :
    Nat → List Char → Option (Option (List (String × Json)) × List Char)
  | 0, _ => none
  | fuel + 1, text =>
    match skipBlanks text with
    | '"' :: rest => do
      let (key, after) ← readString rest
      match skipBlanks after with
      | ':' :: rest => do
        let (value, after) ← readValue depth fuel rest
        let entry := key.map (·, value)
        match skipBlanks after with
        | ',' :: rest => do
          let (entries, after) ← readEntries depth fuel rest
          some (entry.bind fun entry => entries.map (entry :: ·), after)
        | '}' :: rest => some (entry.map ([·]), rest)
        | _ => none
      | _ => none
    | _ => none

end

/-- The value that a whole text stands for. -/
def read? (text : String) : Option Json :=
  let chars := text.toList
  match readValue 0 (2 * chars.length + 2) chars with
  | some (value, after) => if (skipBlanks after).isEmpty then some value else none
  | none => none

end Json

end CallForm
