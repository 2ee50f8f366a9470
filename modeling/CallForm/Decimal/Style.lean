-- How the shortest digits of a double are laid out as text: where the
-- positional form ends, and what the other form looks like.
import CallForm.Decimal.Shortest

namespace CallForm

/-- The layout of a number: it is written positionally if its decimal point falls from
`firstPoint` to `lastPoint`, and with an exponent otherwise. Of two shortest decimals that are
equally near it is the one that `tie` says. -/
structure NumberStyle where
  tie : Tie
  firstPoint : Int
  lastPoint : Int
  notANumber : String
  infinite : String
deriving Repr, DecidableEq

/-- Digits written positionally, always with a point and a digit on each side of it. -/
def Digits.positional (d : Digits) : String :=
  if d.point ≤ 0 then
    "0." ++ String.ofList (List.replicate (-d.point).toNat '0' ++ d.digits)
  else
    let whole := d.digits.take d.point.toNat
    let fraction := d.digits.drop d.point.toNat
    let padding := List.replicate (d.point.toNat - d.digits.length) '0'
    String.ofList (whole ++ padding) ++ "." ++
      (if fraction.isEmpty then "0" else String.ofList fraction)

/-- Digits written with one digit before the point and an exponent of ten. -/
def Digits.scientific (d : Digits) : String :=
  let mantissa :=
    match d.digits with
    | [] => "0"
    | [digit] => String.ofList [digit]
    | digit :: rest => String.ofList (digit :: '.' :: rest)
  mantissa ++ "e" ++ toString (d.point - 1)

/-- The text of a double in a given layout; a zero keeps its sign. -/
def NumberStyle.render (style : NumberStyle) (x : Float) : String :=
  if x.isNaN then style.notANumber
  else
    let sign := if x.toBits ≥ 0x8000000000000000 then "-" else ""
    if x.isInf then sign ++ style.infinite
    else
      let exact := Binary64.ofFloat x
      if exact.mantissa = 0 then sign ++ "0.0"
      else
        let d := shortestDigits style.tie exact.mantissa exact.exponent
        sign ++
          (if style.firstPoint ≤ d.point ∧ d.point ≤ style.lastPoint then d.positional
          else d.scientific)

end CallForm
