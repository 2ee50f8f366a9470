-- Numerals: digits of any radix up to 36 and what rows of them stand for,
-- the double nearest to a decimal, and the whole numbers that words of 32
-- and 64 bits hold.
namespace CallForm

/-! ## Rows of digits -/

/-- The value of a digit, letters counting on from ten in either case. -/
def digitValue? (c : Char) : Option Nat :=
  if c.isDigit then some (c.toNat - '0'.toNat)
  else if 'a' ≤ c ∧ c ≤ 'z' then some (c.toNat - 'a'.toNat + 10)
  else if 'A' ≤ c ∧ c ≤ 'Z' then some (c.toNat - 'A'.toNat + 10)
  else none

/-- The value of a digit in a radix. -/
def digitIn? (radix : Nat) (c : Char) : Option Nat :=
  (digitValue? c).filter (· < radix)

/-- The value of a row of digits after the value `start`. -/
def positional? (radix start : Nat) : List Char → Option Nat
  | [] => some start
  | c :: rest => do
    let digit ← digitIn? radix c
    positional? radix (start * radix + digit) rest

/-- The value of a row of at least one digit. -/
def unsigned? (radix : Nat) : List Char → Option Nat
  | [] => none
  | digits => positional? radix 0 digits

/-- The character whose code point a row of hexadecimal digits gives; a surrogate has none. -/
def charOfHex? (digits : List Char) : Option Char :=
  (unsigned? 16 digits).bind fun code =>
    if code.isValidChar then some (Char.ofNat code) else none

/-! ## Decimals -/

/-- The number that a row of decimal digits stands for. -/
def natOfDigits (digits : List Char) : Nat :=
  digits.foldl (fun total c => total * 10 + (c.toNat - '0'.toNat)) 0

theorem natOfDigits_toDigits (n : Nat) : natOfDigits (Nat.toDigits 10 n) = n := by
  have same : natOfDigits (Nat.toDigits 10 n) = Nat.ofDigitChars 10 (Nat.toDigits 10 n) 0 := by
    simp only [natOfDigits, Nat.ofDigitChars, Nat.mul_comm]
  rw [same, Nat.ofDigitChars_ten_toDigits]

/-- The double nearest to `mantissa * 10 ^ exponent`. Numbers past the largest double become
infinite and numbers far below the least one become zero, without their powers of ten being
worked out. -/
def floatOfDecimal (mantissa : Nat) (exponent : Int) : Float :=
  let size := exponent + (Nat.toDigits 10 mantissa).length
  if mantissa = 0 ∨ size < -330 then 0.0
  else if size > 310 then 1.0 / 0.0
  else Float.ofScientific mantissa (exponent < 0) exponent.natAbs

/-! ## Words -/

namespace Word

/-- The largest number of a word of 32 bits. -/
def max32 : Nat := 4294967295

/-- The largest number of a word of 64 bits. -/
def max64 : Nat := 18446744073709551615

/-- Whether a signed word of 64 bits holds a number. -/
def holdsSigned64 (n : Int) : Bool :=
  decide (-9223372036854775808 ≤ n ∧ n ≤ 9223372036854775807)

/-- A number as a signed word of 64 bits, if it is one. -/
def signed64? (n : Int) : Option Int64 :=
  if holdsSigned64 n then some (Int64.ofInt n) else none

/-- A number as a word of 32 bits, if it is one. -/
def unsigned32? (n : Int) : Option UInt32 :=
  if 0 ≤ n ∧ n.toNat ≤ max32 then some (UInt32.ofNat n.toNat) else none

theorem unsigned32?_eq_some_iff {n : Int} {word : UInt32} :
    unsigned32? n = some word ↔ n = word.toNat := by
  unfold unsigned32? max32
  have small := word.toNat_lt
  constructor
  · intro h
    split at h
    · cases h
      rw [UInt32.toNat_ofNat']
      omega
    · cases h
  · rintro rfl
    rw [if_pos (by omega), Int.toNat_natCast, UInt32.ofNat_toNat]

theorem signed64?_eq_some_iff {n : Int} {word : Int64} :
    signed64? n = some word ↔ n = word.toInt := by
  unfold signed64? holdsSigned64
  have least := word.le_toInt
  have most := word.toInt_le
  simp only [decide_eq_true_eq]
  constructor
  · intro h
    split at h
    · cases h
      rw [Int64.toInt_ofInt_of_le (by omega) (by omega)]
    · cases h
  · rintro rfl
    rw [if_pos (by constructor <;> assumption), Int64.ofInt_toInt]

theorem map_toInt_signed64? (n : Int) :
    (signed64? n).map Int64.toInt = if holdsSigned64 n then some n else none := by
  unfold signed64?
  split
  · rename_i held
    have bounds := of_decide_eq_true held
    rw [Option.map_some, Int64.toInt_ofInt_of_le (by omega) (by omega)]
  · rfl

end Word

end CallForm
