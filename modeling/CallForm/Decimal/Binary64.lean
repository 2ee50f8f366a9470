-- Doubles as exact numbers: every finite double is a whole number times a
-- power of two, and every such product rounds to one double.

namespace CallForm

/-! ## Powers -/

/-- A power of two. -/
def twoTo (n : Nat) : Nat := Nat.pow 2 n

/-- A power of ten. -/
def tenTo (n : Nat) : Nat := Nat.pow 10 n

/-! ## Doubles -/

/-- The number `mantissa * 2 ^ exponent`, negated if `negative`; a zero keeps its sign. -/
structure Binary64 where
  negative : Bool
  mantissa : Nat
  exponent : Int
deriving Repr, DecidableEq

namespace Binary64

/-! ### From a double and back -/

/-- The exact value of a finite double. -/
def ofFloat (x : Float) : Binary64 :=
  let bits : Nat := x.toBits.toNat
  let fraction : Nat := bits % twoTo 52
  let biased : Nat := bits / twoTo 52 % twoTo 11
  if biased = 0 then
    { negative := bits / twoTo 63 = 1, mantissa := fraction, exponent := -1074 }
  else
    { negative := bits / twoTo 63 = 1, mantissa := twoTo 52 + fraction,
      exponent := (biased : Int) - 1075 }

/-- `n / 2 ^ shift` rounded to the nearest whole number, a half to the even one. -/
def roundShift (n shift : Nat) : Nat :=
  let quotient := n / twoTo shift
  let rest := n % twoTo shift
  let above := 2 * rest > twoTo shift ∨ (2 * rest = twoTo shift ∧ quotient % 2 = 1)
  if above then quotient + 1 else quotient

/-- The bits of the double nearest to a number, a half to the even one; what lies past the
largest double becomes an infinity. -/
def toBits (x : Binary64) : Nat :=
  let sign := if x.negative then twoTo 63 else 0
  if x.mantissa = 0 then sign
  else
    let unit := max (x.exponent + (Nat.log2 x.mantissa : Int) - 52) (-1074)
    let scaled :=
      if x.exponent ≤ unit then roundShift x.mantissa (unit - x.exponent).toNat
      else x.mantissa * twoTo (x.exponent - unit).toNat
    let (mantissa, unit) :=
      if scaled = twoTo 53 then (twoTo 52, unit + 1) else (scaled, unit)
    if mantissa < twoTo 52 then sign + mantissa
    else if unit > 971 then sign + 2047 * twoTo 52
    else sign + (unit + 1075).toNat * twoTo 52 + (mantissa - twoTo 52)

/-- The double nearest to a number. -/
def toFloat (x : Binary64) : Float :=
  Float.ofBits (UInt64.ofNat x.toBits)

/-! ### Exact arithmetic -/

/-- The signed whole number that `x` is when counted in units of `2 ^ unit`, for a unit no
larger than the one of `x`. -/
def inUnits (x : Binary64) (unit : Int) : Int :=
  let magnitude := (x.mantissa * twoTo (x.exponent - unit).toNat : Nat)
  if x.negative then -(magnitude : Int) else magnitude

/-- The exact product. -/
def mul (x y : Binary64) : Binary64 where
  negative := x.negative != y.negative
  mantissa := x.mantissa * y.mantissa
  exponent := x.exponent + y.exponent

/-- The exact sum; a sum of zero is negative only if both parts are. -/
def add (x y : Binary64) : Binary64 :=
  let unit := min x.exponent y.exponent
  let total := x.inUnits unit + y.inUnits unit
  { negative := if total = 0 then x.negative && y.negative else total < 0
    mantissa := total.natAbs
    exponent := unit }

end Binary64

/-- `x * y + z`, rounded once. -/
def fusedMulAdd (x y z : Float) : Float :=
  if x.isFinite && y.isFinite && z.isFinite then
    ((Binary64.ofFloat x).mul (Binary64.ofFloat y)).add (Binary64.ofFloat z) |>.toFloat
  else
    x * y + z

end CallForm
