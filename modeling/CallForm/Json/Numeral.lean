-- JSON numbers. Whole numbers that fit 64 bits are exact. Every other
-- number is read in a fixed number of steps and not rounded once: the
-- digits that fit 64 bits make a double, and one power of ten scales it.
import CallForm.Json.Basic
import CallForm.Decimal.Numeral

namespace CallForm

/-- The parts of a JSON number as it is written. -/
structure JsonNumeral where
  negative : Bool
  whole : List Char
  fraction : Option (List Char)
  exponent : Option (Bool × List Char)
deriving Repr

namespace JsonNumeral

/-! ## Reading the parts -/

/-- The leading digits of a text and what follows. -/
def digits (text : List Char) : List Char × List Char :=
  (text.takeWhile Char.isDigit, text.dropWhile Char.isDigit)

/-- The digits before the point: a zero has to stand alone. -/
def wholePart (text : List Char) : Option (List Char × List Char) :=
  match digits text with
  | ([], _) => none
  | ('0' :: _ :: _, _) => none
  | found => some found

/-- The digits after the point, if there is a point. -/
def fractionPart : List Char → Option (Option (List Char) × List Char)
  | '.' :: rest =>
    match digits rest with
    | ([], _) => none
    | (found, after) => some (some found, after)
  | text => some (none, text)

/-- The digits of an exponent of the given sign. -/
def exponentDigits (negative : Bool) (text : List Char) :
    Option (Option (Bool × List Char) × List Char) :=
  match digits text with
  | ([], _) => none
  | (found, after) => some (some (negative, found), after)

/-- The exponent, if there is one. -/
def exponentPart : List Char → Option (Option (Bool × List Char) × List Char)
  | 'e' :: '+' :: rest | 'E' :: '+' :: rest => exponentDigits false rest
  | 'e' :: '-' :: rest | 'E' :: '-' :: rest => exponentDigits true rest
  | 'e' :: rest | 'E' :: rest => exponentDigits false rest
  | text => some (none, text)

/-- The number at the start of a text and what follows. -/
def read (text : List Char) : Option (JsonNumeral × List Char) := do
  let (negative, text) :=
    match text with
    | '-' :: rest => (true, rest)
    | _ => (false, text)
  let (whole, text) ← wholePart text
  let (fraction, text) ← fractionPart text
  let (exponent, text) ← exponentPart text
  some ({ negative, whole, fraction, exponent }, text)

/-! ## The value -/

/-- The value of a row of digits up to the first one that would leave 64 bits, and how many digits
there are from that one on. -/
def fitting (start : Nat) : List Char → Nat × Nat
  | [] => (start, 0)
  | c :: rest =>
    let next := start * 10 + (c.toNat - '0'.toNat)
    if next ≤ Word.max64 then fitting next rest else (start, rest.length + 1)

/-- A power of ten as a double. -/
def powerOfTen (n : Nat) : Float := floatOfDecimal 1 n

/-- A double times `10 ^ exponent`, in steps of at most `10 ^ 308`; nothing if it gets infinite.
Four steps down make any double zero, so `steps` bounds no result. -/
def scale (exponent : Int) (x : Float) : (steps : Nat) → Option Float
  | 0 => some 0.0
  | steps + 1 =>
    if exponent.natAbs ≤ 308 then
      if exponent < 0 then some (x / powerOfTen exponent.natAbs)
      else
        let scaled := x * powerOfTen exponent.natAbs
        if scaled.isInf then none else some scaled
    else if x == 0.0 then some x
    else if exponent < 0 then scale (exponent + 308) (x / powerOfTen 308) steps
    else none

/-- The double that a number with a fraction, an exponent or too many digits stands for. -/
def floatValue (n : JsonNumeral) : Option Float := do
  let (significand, cut) := fitting 0 n.whole
  let fraction := n.fraction.getD []
  let (significand, left) := fitting significand fraction
  let point : Int := (cut : Int) - ((fraction.length - left : Nat) : Int)
  let exponent : Int :=
    match n.exponent with
    | none => 0
    | some (negative, digits) =>
      let size := (natOfDigits digits : Int)
      if negative then -size else size
  let magnitude ← scale (point + exponent) (Float.ofNat significand) 8
  some (if n.negative then -magnitude else magnitude)

/-- The value of a number; nothing if it lies past the largest double. -/
def value (n : JsonNumeral) : Option JsonNumber :=
  let whole := natOfDigits n.whole
  let isWhole := n.fraction.isNone && n.exponent.isNone
  if isWhole && !n.negative && whole ≤ Word.max64 then some (.int whole)
  else if isWhole && n.negative && 0 < whole && Word.holdsSigned64 (-whole) then
    some (.int (-whole))
  else n.floatValue.map .float

end JsonNumeral

end CallForm
