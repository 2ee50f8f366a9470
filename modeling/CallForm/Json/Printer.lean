-- Writing JSON, on one line or with one entry a line.
import CallForm.Json.Basic
import CallForm.Decimal.Style

namespace CallForm

/-- Doubles in JSON text: positional from `0.00001` to below `10^16`, always with a point or an
exponent. -/
def jsonNumbers : NumberStyle where
  tie := .even
  firstPoint := -4
  lastPoint := 16
  notANumber := "null"
  infinite := "null"

/-- The text of a number; a double that is not finite becomes `null`. -/
def JsonNumber.render : JsonNumber → String
  | .int value => toString value
  | .float value => if value.isFinite then jsonNumbers.render value else "null"

namespace Json

/-- A hexadecimal digit. -/
def hexChar (n : Nat) : Char := Nat.digitChar n

/-- A character inside a string. -/
def writtenChar (c : Char) : List Char :=
  match c with
  | '"' => ['\\', '"']
  | '\\' => ['\\', '\\']
  | '\x08' => ['\\', 'b']
  | '\x0c' => ['\\', 'f']
  | '\n' => ['\\', 'n']
  | '\r' => ['\\', 'r']
  | '\t' => ['\\', 't']
  | c =>
    if c.toNat < 0x20 then ['\\', 'u', '0', '0', hexChar (c.toNat / 16), hexChar (c.toNat % 16)]
    else [c]

/-- A string with its quotes. -/
def writtenString (value : String) : String :=
  "\"" ++ String.ofList (value.toList.flatMap writtenChar) ++ "\""

mutual

/-- A value on one line. -/
def compact : Json → String
  | .null | .unreadable => "null"
  | .bool value => if value then "true" else "false"
  | .number value => value.render
  | .string value => writtenString value
  | .array items => "[" ++ ",".intercalate (compactAll items) ++ "]"
  | .object entries => "\x7b" ++ ",".intercalate (compactEntries entries) ++ "\x7d"

/-- Several values, each on one line. -/
def compactAll : List Json → List String
  | [] => []
  | item :: rest => item.compact :: compactAll rest

/-- Several entries, each on one line. -/
def compactEntries : List (String × Json) → List String
  | [] => []
  | (key, value) :: rest => (writtenString key ++ ":" ++ value.compact) :: compactEntries rest

end

/-- The start of a line two blanks deeper for each level. -/
def lineStart (level : Nat) : String :=
  "\n" ++ String.ofList (List.replicate (2 * level) ' ')

/-- The lines between two brackets, or the bare brackets if there are none. -/
def bracketed (opening closing : String) (level : Nat) (lines : List String) : String :=
  if lines.isEmpty then opening ++ closing
  else
    opening ++ ",".intercalate (lines.map (lineStart (level + 1) ++ ·)) ++ lineStart level ++
      closing

mutual

/-- A value with one item or entry a line, at a level of nesting. -/
def pretty (level : Nat) : Json → String
  | .array items => bracketed "[" "]" level (prettyAll (level + 1) items)
  | .object entries => bracketed "\x7b" "\x7d" level (prettyEntries (level + 1) entries)
  | other => other.compact

/-- Several values, each with one item or entry a line. -/
def prettyAll (level : Nat) : List Json → List String
  | [] => []
  | item :: rest => item.pretty level :: prettyAll level rest

/-- Several entries, each with one item or entry a line. -/
def prettyEntries (level : Nat) : List (String × Json) → List String
  | [] => []
  | (key, value) :: rest =>
    (writtenString key ++ ": " ++ value.pretty level) :: prettyEntries level rest

end

end Json

end CallForm
