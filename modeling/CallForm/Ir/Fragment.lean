-- The text of the compiled form, built from texts of its parts. This is
-- the one place where its commas, blanks, parentheses and quotes are
-- decided.
import CallForm.Tree.Basic
import CallForm.Decimal.Style

namespace CallForm

/-- Doubles in compiled text: positional from `0.0001` to below `10^16`, always with a point or
an exponent. -/
def compiledNumbers : NumberStyle where
  tie := .up
  firstPoint := -3
  lastPoint := 16
  notANumber := "NaN"
  infinite := "inf"

namespace Fragment

/-- Texts side by side, with a comma and a blank between them. -/
def join : List String → String
  | [] => ""
  | [item] => item
  | item :: rest => item ++ ", " ++ join rest

/-- A head with its arguments in parentheses. -/
def call (head : String) (args : List String) : String :=
  head ++ "(" ++ join args ++ ")"

/-- A text in parentheses. -/
def group (text : String) : String :=
  "(" ++ text ++ ")"

/-- An operator between two texts, all of it in parentheses if `grouped`. -/
def between (left operator right : String) (grouped : Bool) : String :=
  let text := left ++ " " ++ operator ++ " " ++ right
  if grouped then group text else text

/-- An operator in front of a text, which gets parentheses if `grouped`. -/
def before (operator operand : String) (grouped : Bool) : String :=
  operator ++ (if grouped then group operand else operand)

/-- The characters of a string literal: a quote and a backslash get a backslash in front. -/
def escape : List Char → List Char
  | [] => []
  | c :: rest => if c = '"' ∨ c = '\\' then '\\' :: c :: escape rest else c :: escape rest

/-- A string literal. -/
def quoted (value : String) : String :=
  "\"" ++ String.ofList (escape value.toList) ++ "\""

/-- A number literal. -/
def number : Number → String
  | .int value => toString value.toInt
  | .float value => compiledNumbers.render value

end Fragment

end CallForm
