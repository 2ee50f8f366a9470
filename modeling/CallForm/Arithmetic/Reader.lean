-- Working out the value of an arithmetic text. The grammar:
--   expr   := term (("+" | "-") term)*
--   term   := factor (("*" | "/" | "%") factor)*
--   factor := "-" factor | power
--   power  := atom ["**" factor]
--   atom   := integer | "(" expr ")"
import CallForm.Arithmetic.Basic
import CallForm.Decimal.Numeral

namespace CallForm

/-! ## Tokens -/

/-- A token of an arithmetic text. -/
inductive ArithmeticToken
  | operator (op : ArithmeticOperator)
  | opening
  | closing
  | number (digits : List Char)
deriving Repr, DecidableEq

/-- The text of a token. -/
def ArithmeticToken.text : ArithmeticToken → String
  | .operator op => op.symbol
  | .opening => "("
  | .closing => ")"
  | .number digits => String.ofList digits

/-- The reasons for a text not to be an arithmetic one. -/
inductive ArithmeticError
  | unexpectedCharacter (c : Char)
  | unexpectedEnd
  | notANumber (found : ArithmeticToken)
  | unclosed
  | trailing (found : ArithmeticToken)
deriving Repr, DecidableEq

/-- The sentence that tells the cause. -/
def ArithmeticError.message : ArithmeticError → String
  | .unexpectedCharacter c => "unexpected `" ++ String.ofList [c] ++ "`"
  | .unexpectedEnd => "unexpected end of input"
  | .notANumber found => "expected a number, found `" ++ found.text ++ "`"
  | .unclosed => "unclosed `(`"
  | .trailing found => "trailing `" ++ found.text ++ "`"

namespace Arithmetic

/-- Puts a digit in front of tokens: into the number they start with if that number touches it,
else as a number of its own. -/
def consDigit (c : Char) (touching : Bool) : List ArithmeticToken → List ArithmeticToken
  | .number digits :: rest =>
    if touching then .number (c :: digits) :: rest else .number [c] :: .number digits :: rest
  | tokens => .number [c] :: tokens

/-- Whether a text starts with a digit. -/
def startsWithDigit : List Char → Bool
  | [] => false
  | c :: _ => c.isDigit

/-- The tokens of a text. Blanks only part them. -/
def tokens : List Char → Except ArithmeticError (List ArithmeticToken)
  | [] => .ok []
  | '*' :: '*' :: rest => (tokens rest).map (.operator .pow :: ·)
  | c :: rest =>
    if c = ' ' then tokens rest
    else if c = '+' then (tokens rest).map (.operator .add :: ·)
    else if c = '-' then (tokens rest).map (.operator .sub :: ·)
    else if c = '*' then (tokens rest).map (.operator .mul :: ·)
    else if c = '/' then (tokens rest).map (.operator .div :: ·)
    else if c = '%' then (tokens rest).map (.operator .mod :: ·)
    else if c = '(' then (tokens rest).map (.opening :: ·)
    else if c = ')' then (tokens rest).map (.closing :: ·)
    else if c.isDigit then (tokens rest).map (consDigit c (startsWithDigit rest))
    else .error (.unexpectedCharacter c)

/-! ## The grammar -/

/-- A value that may be undefined, and the tokens that follow. -/
abbrev Reading := Except ArithmeticError (Option Float × List ArithmeticToken)

mutual

/-- An expression: terms that are added and subtracted from left to right. The fuel bounds the
number of steps; four for each token and four more are enough. -/
def readExpr : Nat → List ArithmeticToken → Reading
  | 0, _ => .error .unexpectedEnd
  | fuel + 1, text => do
    let (first, rest) ← readTerm fuel text
    readSum fuel first rest

/-- The terms after the first, added to it or subtracted from it. -/
def readSum : Nat → Option Float → List ArithmeticToken → Reading
  | 0, total, rest => .ok (total, rest)
  | fuel + 1, total, .operator .add :: rest => do
    let (next, rest) ← readTerm fuel rest
    readSum fuel (ArithmeticOperator.add.combine total next) rest
  | fuel + 1, total, .operator .sub :: rest => do
    let (next, rest) ← readTerm fuel rest
    readSum fuel (ArithmeticOperator.sub.combine total next) rest
  | _ + 1, total, rest => .ok (total, rest)

/-- A term: factors that are multiplied and divided from left to right. -/
def readTerm : Nat → List ArithmeticToken → Reading
  | 0, _ => .error .unexpectedEnd
  | fuel + 1, text => do
    let (first, rest) ← readFactor fuel text
    readProduct fuel first rest

/-- The factors after the first, multiplied with it or dividing it. -/
def readProduct : Nat → Option Float → List ArithmeticToken → Reading
  | 0, total, rest => .ok (total, rest)
  | fuel + 1, total, .operator .mul :: rest => do
    let (next, rest) ← readFactor fuel rest
    readProduct fuel (ArithmeticOperator.mul.combine total next) rest
  | fuel + 1, total, .operator .div :: rest => do
    let (next, rest) ← readFactor fuel rest
    readProduct fuel (ArithmeticOperator.div.combine total next) rest
  | fuel + 1, total, .operator .mod :: rest => do
    let (next, rest) ← readFactor fuel rest
    readProduct fuel (ArithmeticOperator.mod.combine total next) rest
  | _ + 1, total, rest => .ok (total, rest)

/-- A factor: a power, or a negation that reaches over a power. -/
def readFactor : Nat → List ArithmeticToken → Reading
  | 0, _ => .error .unexpectedEnd
  | fuel + 1, .operator .sub :: rest => do
    let (operand, rest) ← readFactor fuel rest
    .ok (operand.map fun x => -x, rest)
  | fuel + 1, text => do
    let (base, rest) ← readAtom fuel text
    match rest with
    | .operator .pow :: rest => do
      let (exponent, rest) ← readFactor fuel rest
      .ok (ArithmeticOperator.pow.combine base exponent, rest)
    | _ => .ok (base, rest)

/-- An atom: a number, or an expression in parentheses. -/
def readAtom : Nat → List ArithmeticToken → Reading
  | 0, _ | _, [] => .error .unexpectedEnd
  | fuel + 1, .opening :: rest => do
    let (value, rest) ← readExpr fuel rest
    match rest with
    | .closing :: rest => .ok (value, rest)
    | _ => .error .unclosed
  | _ + 1, .number digits :: rest =>
    let value := natOfDigits digits
    if value ≤ Word.max32 then .ok (some (Float.ofNat value), rest)
    else .error (.notANumber (.number digits))
  | _ + 1, token :: _ => .error (.notANumber token)

end

/-- The value of a text, if every step of it is defined and finite; or why it is no arithmetic
text. -/
def evaluate (text : String) : Except ArithmeticError (Option Float) := do
  let found ← tokens text.toList
  let (value, rest) ← readExpr (4 * found.length + 4) found
  match rest with
  | [] => .ok value
  | token :: _ => .error (.trailing token)

end Arithmetic

end CallForm
