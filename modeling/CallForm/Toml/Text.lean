-- Strings, keys, blanks and comments of a configuration text. Each reader
-- takes what it reads off the front of the text and gives back the rest.
import CallForm.Decimal.Numeral

namespace CallForm

namespace Toml

/-! ## Blanks and comments -/

/-- Whether a character may stand on a line: a tab, or anything that is no control character of
ASCII. -/
def isPlain (c : Char) : Bool :=
  c == '\t' || (0x20 ≤ c.toNat && c.toNat != 0x7f)

/-- Whether a character is a blank inside a line. -/
def isBlank (c : Char) : Bool := c == ' ' || c == '\t'

/-- A text without the blanks it starts with. -/
def skipBlanks (text : List Char) : List Char := text.dropWhile isBlank

/-- A text without the blanks and line ends it starts with. -/
def skipBreaks : List Char → List Char
  | '\r' :: '\n' :: rest => skipBreaks rest
  | c :: rest => if isBlank c || c == '\n' then skipBreaks rest else c :: rest
  | [] => []

/-- A text without the blanks, line ends and comments it starts with. -/
def skipGaps (inComment : Bool) : List Char → List Char
  | [] => []
  | '\r' :: '\n' :: rest => skipGaps false rest
  | c :: rest =>
    if c == '\n' then skipGaps false rest
    else if inComment then if isPlain c then skipGaps true rest else c :: rest
    else if isBlank c then skipGaps false rest
    else if c == '#' then skipGaps true rest
    else c :: rest

/-- A text without the line end it starts with; the end of the text is one, too. -/
def lineEnd? : List Char → Option (List Char)
  | [] => some []
  | '\n' :: rest => some rest
  | '\r' :: '\n' :: rest => some rest
  | _ => none

/-- A text without the rest of a line that holds nothing more than a comment. -/
def restOfLine? (text : List Char) : Option (List Char) :=
  match skipBlanks text with
  | '#' :: rest => lineEnd? (rest.dropWhile isPlain)
  | rest => lineEnd? rest

/-! ## Strings -/

/-- The character that a short escape stands for. -/
def escaped? : Char → Option Char
  | 'b' => some '\x08'
  | 't' => some '\t'
  | 'n' => some '\n'
  | 'f' => some '\x0c'
  | 'r' => some '\r'
  | '"' => some '"'
  | '\\' => some '\\'
  | _ => none

/-- The character of the escape after a backslash. -/
def readEscape : List Char → Option (Char × List Char)
  | 'u' :: a :: b :: c :: d :: rest => (charOfHex? [a, b, c, d]).map (·, rest)
  | 'U' :: a :: b :: c :: d :: e :: f :: g :: h :: rest =>
    (charOfHex? [a, b, c, d, e, f, g, h]).map (·, rest)
  | c :: rest => (escaped? c).map (·, rest)
  | [] => none

/-- Puts a character in front of what was read. -/
def andRest (c : Char) (found : Option (List Char × List Char)) :
    Option (List Char × List Char) :=
  found.map fun (chars, rest) => (c :: chars, rest)

/-- The inside of a string between double quotes, after the first of them. -/
def readQuoted : Nat → List Char → Option (List Char × List Char)
  | 0, _ | _, [] => none
  | _ + 1, '"' :: rest => some ([], rest)
  | fuel + 1, '\\' :: rest => do
    let (c, rest) ← readEscape rest
    andRest c (readQuoted fuel rest)
  | fuel + 1, c :: rest => if isPlain c then andRest c (readQuoted fuel rest) else none

/-- The inside of a string between single quotes, after the first of them. -/
def readVerbatim (text : List Char) : Option (List Char × List Char) :=
  let isInner (c : Char) : Bool := isPlain c && c != '\''
  match text.dropWhile isInner with
  | '\'' :: rest => some (text.takeWhile isInner, rest)
  | _ => none

/-- What follows three quotes: up to two more quotes in front of the last three belong to the
string. -/
def closing (quote : Char) : List Char → List Char × List Char
  | a :: b :: rest =>
    if a == quote then if b == quote then ([a, b], rest) else ([a], b :: rest)
    else ([], a :: b :: rest)
  | [a] => if a == quote then ([a], []) else ([], [a])
  | [] => ([], [])

/-- The inside of a string of several lines between double quotes. A backslash at the end of a
line takes all blanks and line ends after it away. -/
def readQuotedLines : Nat → List Char → Option (List Char × List Char)
  | 0, _ | _, [] => none
  | _ + 1, '"' :: '"' :: '"' :: rest => some (closing '"' rest)
  | fuel + 1, '\r' :: '\n' :: rest => andRest '\n' (readQuotedLines fuel rest)
  | fuel + 1, '\n' :: rest => andRest '\n' (readQuotedLines fuel rest)
  | fuel + 1, '\\' :: rest =>
    match lineEnd? (skipBlanks rest) with
    | some (next :: after) => readQuotedLines fuel (skipBreaks (next :: after))
    | some [] => none
    | none => do
      let (c, rest) ← readEscape rest
      andRest c (readQuotedLines fuel rest)
  | fuel + 1, c :: rest => if isPlain c then andRest c (readQuotedLines fuel rest) else none

/-- The inside of a string of several lines between single quotes. -/
def readVerbatimLines : List Char → Option (List Char × List Char)
  | [] => none
  | '\'' :: '\'' :: '\'' :: rest => some (closing '\'' rest)
  | '\r' :: '\n' :: rest => andRest '\n' (readVerbatimLines rest)
  | c :: rest =>
    if isPlain c || c == '\n' then andRest c (readVerbatimLines rest) else none

/-- A text without the one line end that may follow three quotes. -/
def skipLineEnd : List Char → List Char
  | '\n' :: rest => rest
  | '\r' :: '\n' :: rest => rest
  | text => text

/-- The string at the start of a text. -/
def readString (text : List Char) : Option (String × List Char) :=
  let found :=
    match text with
    | '"' :: '"' :: '"' :: rest => readQuotedLines (rest.length + 1) (skipLineEnd rest)
    | '"' :: rest => readQuoted (rest.length + 1) rest
    | '\'' :: '\'' :: '\'' :: rest => readVerbatimLines (skipLineEnd rest)
    | '\'' :: rest => readVerbatim rest
    | _ => none
  found.map fun (chars, rest) => (String.ofList chars, rest)

/-! ## Keys -/

/-- Whether a character may stand in a key without quotes. -/
def isBare (c : Char) : Bool := c.isAlphanum || c == '-' || c == '_'

/-- One part of a key at the start of a text. -/
def readKeyPart (text : List Char) : Option (String × List Char) :=
  match text with
  | '"' :: rest =>
    (readQuoted (rest.length + 1) rest).map fun (chars, rest) => (String.ofList chars, rest)
  | '\'' :: rest => (readVerbatim rest).map fun (chars, rest) => (String.ofList chars, rest)
  | _ =>
    match text.takeWhile isBare with
    | [] => none
    | chars => some (String.ofList chars, text.dropWhile isBare)

/-- The parts of a key at the start of a text, with the blanks around them. -/
def readKeyParts : Nat → List Char → Option (List String × List Char)
  | 0, _ => none
  | fuel + 1, text => do
    let (part, rest) ← readKeyPart (skipBlanks text)
    match skipBlanks rest with
    | '.' :: rest => do
      let (parts, rest) ← readKeyParts fuel rest
      some (part :: parts, rest)
    | rest => some ([part], rest)

/-- How deep keys and values may nest. -/
def nestLimit : Nat := 79

/-- The parts of a key at the start of a text, no more of them than values may nest. -/
def readKey (text : List Char) : Option (List String × List Char) :=
  readKeyParts nestLimit text

end Toml

end CallForm
