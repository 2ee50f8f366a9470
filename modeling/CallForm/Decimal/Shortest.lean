-- The shortest decimal that reads back as a given double: of all decimals
-- inside the interval that rounds to the double, one with the fewest
-- digits, and of those the nearest.
import CallForm.Decimal.Binary64

namespace CallForm

/-- A positive decimal `0.d₁d₂… * 10 ^ point`, given by its digits. -/
structure Digits where
  digits : List Char
  point : Int
deriving Repr, DecidableEq

/-- Which of two decimals is taken if the double lies in the middle between them. -/
inductive Tie
  | up | even
deriving Repr, DecidableEq

namespace Shortest

/-- The decimal digits of a number, `0` having one. -/
def digitsOf (n : Nat) : List Char := Nat.toDigits 10 n

/-! ## The interval of a double -/

/-- The numbers that round to a double, counted in quarters of its unit: the bounds, the double
itself, whether the bounds belong to it, and the unit of the count as a power of two. -/
structure Interval where
  low : Nat
  value : Nat
  high : Nat
  closed : Bool
  unit : Int

/-- The interval around `mantissa * 2 ^ exponent`: half a unit to each side, a quarter below a
power of two, where the smaller doubles lie closer. -/
def intervalOf (mantissa : Nat) (exponent : Int) : Interval where
  low := 4 * mantissa - (if mantissa = twoTo 52 ∧ exponent > -1074 then 1 else 2)
  value := 4 * mantissa
  high := 4 * mantissa + 2
  closed := mantissa % 2 = 0
  unit := exponent - 2

/-- Whether the bounds let `n / scale` in, both counted alike. -/
def Interval.admits (i : Interval) (n scale : Nat) : Bool :=
  if i.closed then i.low * scale ≤ n && n ≤ i.high * scale
  else i.low * scale < n && n < i.high * scale

/-! ## The search -/

/-- The place of the decimal point: the value is less than `10 ^ p` and at least a tenth of it. -/
def pointOf (numerator denominator : Nat) : Int :=
  if denominator ≤ numerator then (digitsOf (numerator / denominator)).length
  else 1 - (digitsOf ((denominator - 1) / numerator)).length

/-- The one of two neighbours, `below` and the next, that a value takes: the nearer one, and of
two that are equally near the one that the rule for ties says. -/
def nearer (tie : Tie) (below fromBelow toAbove : Nat) : Nat :=
  if fromBelow < toAbove then below
  else if toAbove < fromBelow then below + 1
  else
    match tie with
    | .up => below + 1
    | .even => below + below % 2

/-- The best multiple of `10 ^ power` inside the interval: the nearer of the value's two
neighbours if both are inside. -/
def nearestOnGrid (tie : Tie) (i : Interval) (power : Int) : Option Nat :=
  let step := tenTo power.toNat * twoTo (-i.unit).toNat
  let scale := twoTo i.unit.toNat * tenTo (-power).toNat
  let value := i.value * scale
  let below := value / step
  let above := below + 1
  match i.admits (below * step) scale, i.admits (above * step) scale with
  | true, true => some (nearer tie below (value - below * step) (above * step - value))
  | true, false => some below
  | false, true => some above
  | false, false => none

/-- The first grid, from coarse to fine, with a point inside the interval. -/
def search (tie : Tie) (i : Interval) (point : Int) : List Nat → Option (Nat × Int)
  | [] => none
  | count :: rest =>
    let power := point - count
    match nearestOnGrid tie i power with
    | some n => some (n, power)
    | none => search tie i point rest

end Shortest

/-- The digits of the shortest decimal that reads back as the finite positive double with these
parts. Seventeen digits always do. -/
def shortestDigits (tie : Tie) (mantissa : Nat) (exponent : Int) : Digits :=
  let interval := Shortest.intervalOf mantissa exponent
  let point :=
    Shortest.pointOf (mantissa * twoTo exponent.toNat) (twoTo (-exponent).toNat)
  match Shortest.search tie interval point ((List.range 17).map (· + 1)) with
  | some (n, power) =>
    let digits := Shortest.digitsOf n
    let trimmed := (digits.reverse.dropWhile (· == '0')).reverse
    { digits := trimmed, point := power + digits.length }
  | none => { digits := Shortest.digitsOf mantissa, point := point }

end CallForm
