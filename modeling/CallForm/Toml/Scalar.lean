-- Numbers, dates and truth values of a configuration text.
import CallForm.Decimal.Numeral
import CallForm.Toml.Table
import CallForm.Toml.Text

namespace CallForm

namespace Toml

/-! ## Rows of digits -/

/-- The digits that go on with a row of them; a single underscore may stand before each. -/
def moreDigits (isDigit : Char → Bool) : List Char → List Char × List Char
  | [] => ([], [])
  | '_' :: c :: rest =>
    if isDigit c then
      let (digits, after) := moreDigits isDigit rest
      (c :: digits, after)
    else ([], '_' :: c :: rest)
  | c :: rest =>
    if isDigit c then
      let (digits, after) := moreDigits isDigit rest
      (c :: digits, after)
    else ([], c :: rest)

/-- A row of digits, without the single underscores that may stand between two of them. -/
def readDigits (isDigit : Char → Bool) : List Char → Option (List Char × List Char)
  | [] => none
  | c :: rest =>
    if isDigit c then
      let (digits, after) := moreDigits isDigit rest
      some (c :: digits, after)
    else none

/-- A sign at the start of a text: whether it is a minus, and what follows. -/
def readSign : List Char → Bool × List Char
  | '-' :: rest => (true, rest)
  | '+' :: rest => (false, rest)
  | text => (false, text)

/-- A row of decimal digits in which a leading zero stands alone. -/
def readWhole : List Char → Option (List Char × List Char)
  | '0' :: rest => some (['0'], rest)
  | text => readDigits Char.isDigit text

/-! ## Integers -/

/-- A value as an integer, if it fits 64 bits. -/
def integerOf? (value : Int) : Option Toml :=
  if Word.holdsSigned64 value then some (.integer value) else none

/-- An integer of a radix after its prefix. -/
def readInRadix (radix : Nat) (text : List Char) : Option (Toml × List Char) := do
  let (digits, rest) ← readDigits (fun c => (digitIn? radix c).isSome) text
  let value ← unsigned? radix digits
  (integerOf? value).map (·, rest)

/-- An integer at the start of a text. -/
def readInteger : List Char → Option (Toml × List Char)
  | '0' :: 'x' :: rest => readInRadix 16 rest
  | '0' :: 'o' :: rest => readInRadix 8 rest
  | '0' :: 'b' :: rest => readInRadix 2 rest
  | text => do
    let (negative, text) := readSign text
    let (digits, rest) ← readWhole text
    let size := (natOfDigits digits : Int)
    (integerOf? (if negative then -size else size)).map (·, rest)

/-! ## Doubles -/

/-- The digits after a point, if there is a point. -/
def readFraction : List Char → Option (Option (List Char) × List Char)
  | '.' :: rest => (readDigits Char.isDigit rest).map fun (digits, rest) => (some digits, rest)
  | text => some (none, text)

/-- The value of an exponent, if there is one. -/
def readExponent : List Char → Option (Option Int × List Char)
  | c :: rest =>
    if c == 'e' || c == 'E' then
      let (negative, rest) := readSign rest
      (readDigits Char.isDigit rest).map fun (digits, rest) =>
        let size := (natOfDigits digits : Int)
        (some (if negative then -size else size), rest)
    else some (none, c :: rest)
  | [] => some (none, [])

/-- A decimal with a fraction or an exponent. Past the largest double there is none above zero;
below zero there is minus infinity. -/
def readDecimal (text : List Char) : Option (Toml × List Char) := do
  let (negative, text) := readSign text
  let (whole, text) ← readWhole text
  let (fraction, text) ← readFraction text
  let (exponent, text) ← readExponent text
  if fraction.isNone && exponent.isNone then none
  else
    let digits := fraction.getD []
    let size :=
      floatOfDecimal (natOfDigits (whole ++ digits)) (exponent.getD 0 - (digits.length : Int))
    if negative then some (.float (-size), text)
    else if size.isInf then none
    else some (.float size, text)

/-- The words for the doubles that are not finite, after an optional sign. -/
def readSpecial (text : List Char) : Option (Toml × List Char) :=
  let (negative, text) := readSign text
  let found? :=
    match text with
    | 'i' :: 'n' :: 'f' :: rest => some (1.0 / 0.0, rest)
    | 'n' :: 'a' :: 'n' :: rest => some (0.0 / 0.0, rest)
    | _ => none
  found?.map fun (x, rest) => (.float (if negative then -x else x), rest)

/-! ## Dates and times -/

/-- A number of exactly `count` digits from `low` to `high`, as its digits. -/
def readField (count low high : Nat) (text : List Char) : Option (List Char × List Char) :=
  let digits := text.take count
  if digits.length = count && digits.all Char.isDigit && low ≤ natOfDigits digits &&
      natOfDigits digits ≤ high then
    some (digits, text.drop count)
  else none

/-- A text without the character it has to start with. -/
def dropChar? (c : Char) : List Char → Option (List Char)
  | [] => none
  | first :: rest => if first = c then some rest else none

/-- How many days a month has. -/
def daysIn (year month : Nat) : Nat :=
  if month = 2 then
    if year % 4 = 0 ∧ (year % 100 ≠ 0 ∨ year % 400 = 0) then 29 else 28
  else if month = 4 ∨ month = 6 ∨ month = 9 ∨ month = 11 then 30
  else 31

/-- A day of the calendar. -/
def readDay (text : List Char) : Option (List Char × List Char) := do
  let (year, text) ← readField 4 0 9999 text
  let text ← dropChar? '-' text
  let (month, text) ← readField 2 1 12 text
  let text ← dropChar? '-' text
  let (day, text) ← readField 2 1 (daysIn (natOfDigits year) (natOfDigits month)) text
  some (year ++ '-' :: month ++ '-' :: day, text)

/-- The digits of a fraction of a second: nine at most, and no zeros at the end. -/
def secondFraction (digits : List Char) : List Char :=
  match ((digits.take 9).reverse.dropWhile (· == '0')).reverse with
  | [] => []
  | kept => '.' :: kept

/-- A time of day; a minute may have a second 60. -/
def readTime (text : List Char) : Option (List Char × List Char) := do
  let (hour, text) ← readField 2 0 23 text
  let text ← dropChar? ':' text
  let (minute, text) ← readField 2 0 59 text
  let text ← dropChar? ':' text
  let (second, text) ← readField 2 0 60 text
  let time := hour ++ ':' :: minute ++ ':' :: second
  match text with
  | '.' :: rest =>
    match rest.takeWhile Char.isDigit with
    | [] => some (time, text)
    | digits => some (time ++ secondFraction digits, rest.dropWhile Char.isDigit)
  | _ => some (time, text)

/-- The distance of a time from the zero meridian. -/
def readOffset : List Char → Option (List Char × List Char)
  | [] => none
  | c :: rest =>
    if c = 'Z' ∨ c = 'z' then some (['Z'], rest)
    else if c = '+' ∨ c = '-' then do
      let (hour, rest) ← readField 2 0 23 rest
      let rest ← dropChar? ':' rest
      let (minute, rest) ← readField 2 0 59 rest
      let sign := if natOfDigits (hour ++ minute) = 0 then '+' else c
      some (sign :: hour ++ ':' :: minute, rest)
    else none

/-- A time after a day and one separating character, with its distance if it has one. -/
def readTimeAfterDay : List Char → Option (List Char × List Char)
  | [] => none
  | c :: rest =>
    if c = 'T' ∨ c = 't' ∨ c = ' ' then do
      let (time, rest) ← readTime rest
      match readOffset rest with
      | some (offset, rest) => some ('T' :: time ++ offset, rest)
      | none => some ('T' :: time, rest)
    else none

/-- A day, a time, or both, in normal form. -/
def readDate (text : List Char) : Option (Toml × List Char) :=
  let found? :=
    match readDay text with
    | some (day, rest) =>
      match readTimeAfterDay rest with
      | some (time, rest) => some (day ++ time, rest)
      | none => some (day, rest)
    | none => readTime text
  found?.map fun (chars, rest) => (.date (String.ofList chars), rest)

/-! ## All values without parts -/

/-- A text without the word it has to start with. -/
def dropWord? (word text : List Char) : Option (List Char) :=
  if word.isPrefixOf text then some (text.drop word.length) else none

/-- A value without parts at the start of a text. -/
def readScalar (text : List Char) : Option (Toml × List Char) :=
  match text with
  | [] => none
  | c :: _ =>
    if c = '"' ∨ c = '\'' then (readString text).map fun (value, rest) => (.string value, rest)
    else if c = 't' then (dropWord? ['t', 'r', 'u', 'e'] text).map (.boolean true, ·)
    else if c = 'f' then (dropWord? ['f', 'a', 'l', 's', 'e'] text).map (.boolean false, ·)
    else readDate text <|> readDecimal text <|> readSpecial text <|> readInteger text

end Toml

end CallForm
