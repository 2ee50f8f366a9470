-- What the text of a number or string literal stands for.
import CallForm.Decimal.Numeral

namespace CallForm

namespace Literal

/-! ## Integers -/

/-- The value of at least one digit after an optional sign. -/
def signed? (radix : Nat) : List Char → Option Int
  | '-' :: digits => (unsigned? radix digits).map fun n => -(n : Int)
  | '+' :: digits => (unsigned? radix digits).map Int.ofNat
  | digits => (unsigned? radix digits).map Int.ofNat

/-- Whether a character is a suffix that marks a long integer. -/
def isLongSuffix (c : Char) : Bool := c == 'l' || c == 'L'

/-- The radix that a prefix asks for, and the text without the prefix. -/
def radixOf : List Char → Nat × List Char
  | '0' :: 'x' :: rest | '0' :: 'X' :: rest => (16, rest)
  | '0' :: 'o' :: rest | '0' :: 'O' :: rest => (8, rest)
  | '0' :: 'b' :: rest | '0' :: 'B' :: rest => (2, rest)
  | text => (10, text)

/-- A literal without its underscores and without the suffixes of a long integer. -/
def bareDigits (text : List Char) : List Char :=
  ((text.filter (· != '_')).reverse.dropWhile isLongSuffix).reverse

/-- The integer that a literal stands for, if it fits 64 bits. -/
def integer? (text : String) : Option Int64 :=
  let (radix, digits) := radixOf (bareDigits text.toList)
  (signed? radix digits).bind Word.signed64?

/-! ## Doubles -/

/-- The leading decimal digits of a text and what follows. -/
def spanDigits (text : List Char) : List Char × List Char :=
  (text.takeWhile Char.isDigit, text.dropWhile Char.isDigit)

/-- The exponent that a whole text writes; an empty text is the exponent 0. -/
def exponent? : List Char → Option Int
  | [] => some 0
  | c :: rest =>
    if c = 'e' ∨ c = 'E' then
      let (negative, digits) :=
        match rest with
        | '-' :: digits => (true, digits)
        | '+' :: digits => (false, digits)
        | digits => (false, digits)
      if digits.isEmpty || !digits.all Char.isDigit then none
      else
        let size := (natOfDigits digits : Int)
        some (if negative then -size else size)
    else none

/-- The double that an unsigned decimal stands for: digits with or without a point, at least one
of them, and maybe an exponent. -/
def unsignedDouble? (text : List Char) : Option Float :=
  let (whole, rest) := spanDigits text
  let (fraction, rest) :=
    match rest with
    | '.' :: rest => spanDigits rest
    | rest => ([], rest)
  if whole.isEmpty && fraction.isEmpty then none
  else
    (exponent? rest).map fun exponent =>
      floatOfDecimal (natOfDigits (whole ++ fraction)) (exponent - (fraction.length : Int))

/-- The double that a literal stands for, if it is finite. -/
def double? (text : String) : Option Float :=
  let chars := text.toList.filter (· != '_')
  let value? :=
    match chars with
    | '-' :: rest => (unsignedDouble? rest).map fun x => -x
    | '+' :: rest => unsignedDouble? rest
    | rest => unsignedDouble? rest
  value?.filter Float.isFinite

/-- Whether a numeric literal is imaginary. -/
def isImaginary (text : String) : Bool :=
  match text.toList.getLast? with
  | some c => c == 'j' || c == 'J'
  | none => false

/-! ## Strings -/

/-- The inside of a string literal with its escapes resolved. A backslash before anything that it
does not escape stays, and a backslash takes a line end away with it. -/
def unescape : List Char → List Char
  | [] => []
  | '\\' :: c :: rest =>
    match c with
    | 'n' => '\n' :: unescape rest
    | 't' => '\t' :: unescape rest
    | 'r' => '\r' :: unescape rest
    | '0' => '\x00' :: unescape rest
    | '\n' => unescape rest
    | '\\' | '\'' | '"' => c :: unescape rest
    | _ => '\\' :: c :: unescape rest
  | c :: rest => c :: unescape rest

end Literal

end CallForm
