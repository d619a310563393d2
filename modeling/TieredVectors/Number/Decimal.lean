import TieredVectors.Number.Double

/-!
# The shortest decimal of a double

Every double is the nearest double to all reals of a small interval around it. Its decimal is the
point of that interval on the coarsest power-of-ten grid that has one, and of two such points the
nearer. Everything is computed over the naturals, so no step rounds.

`Decimal.shortest` finds the digits; `Layout` decides how they are written.
-/

namespace TieredVectors

/-- The number `digits * 10 ^ exponent`. -/
structure Decimal where
  /-- All digits as one number. -/
  digits : Nat
  /-- The power of ten of the last digit. -/
  exponent : Int
deriving Repr, DecidableEq

namespace Decimal

/-- The point of the grid `10 ^ k` that reads back as `significand * 2 ^ exponent`, the nearer one
if there are two and the greater one if both are equally near.

With both sides scaled by the same factor, the double is `4 * significand * unit`, a grid point is a
multiple of `step`, and the interval reaches half the gap to the neighbouring doubles: `2 * unit`
upward, and downward `2 * unit` or, where the gap below is half as wide, `unit`. The ends belong to
the interval if the significand is even. -/
def onGrid? (significand : Nat) (exponent : Int) (k : Int) : Option Decimal :=
  let unit := Nat.pow 2 (exponent - 2).toNat * Nat.pow 10 (-k).toNat
  let step := Nat.pow 2 (2 - exponent).toNat * Nat.pow 10 k.toNat
  let value := 4 * significand * unit
  let gapBelow := if significand = Nat.pow 2 52 ∧ -1074 < exponent then unit else 2 * unit
  let inside (d : Nat) : Bool :=
    if significand % 2 = 0 then
      value ≤ d * step + gapBelow && d * step ≤ value + 2 * unit
    else
      value < d * step + gapBelow && d * step < value + 2 * unit
  let below := value / step
  let above := below + 1
  let aboveNearer : Bool := step ≤ 2 * (value % step)
  match 0 < below && inside below, inside above with
  | true, true => some ⟨if aboveNearer then above else below, k⟩
  | true, false => some ⟨below, k⟩
  | false, true => some ⟨above, k⟩
  | false, false => none

/-- The powers of ten that a digit of a double's decimal can have, greatest first. -/
def grids : List Int := (List.range 653).map fun (i : Nat) => 309 - (i : Int)

/-- The fewest digits that read back as `significand * 2 ^ exponent`. -/
def shortest (significand : Nat) (exponent : Int) : Decimal :=
  (grids.findSome? (onGrid? significand exponent)).getD ⟨0, 0⟩

/-- The power of ten of the first digit. -/
def leading (d : Decimal) : Int := (toString d.digits).length - 1 + d.exponent

end Decimal

/-- How a double is written. -/
structure Layout where
  /-- The least power of ten of a first digit that is written without an exponent. -/
  leastPositional : Int
  /-- The greatest power of ten of a first digit that is written without an exponent. -/
  greatestPositional : Int
  /-- The text between the digits and the exponent. -/
  exponentMark : String
  /-- What ends a positional text that has no fractional digits. -/
  wholeEnding : String
  /-- The text of an infinity, without its sign. -/
  infinity : String
  /-- The text of what is not a number. -/
  notANumber : String

namespace Layout

/-- As many zeros as `n` says. -/
def zeros (n : Nat) : String := String.ofList (List.replicate n '0')

/-- Digits without an exponent. -/
def positional (l : Layout) (d : Decimal) : String :=
  let digits := (toString d.digits).toList
  let whole := (digits.length + d.exponent).toNat
  if 0 ≤ d.exponent then
    String.ofList digits ++ zeros d.exponent.toNat ++ l.wholeEnding
  else if 0 < whole then
    String.ofList (digits.take whole) ++ "." ++ String.ofList (digits.drop whole)
  else
    "0." ++ zeros (-(digits.length + d.exponent)).toNat ++ String.ofList digits

/-- One digit, the others after a point, and the exponent. -/
def scientific (l : Layout) (d : Decimal) : String :=
  let digits := (toString d.digits).toList
  let fraction := digits.drop 1
  String.ofList (digits.take 1) ++ (if fraction.isEmpty then "" else "." ++ String.ofList fraction)
    ++ l.exponentMark ++ toString d.leading

/-- The text of a double. -/
def write (l : Layout) (x : Float) : String :=
  match Double.parts? x with
  | none => if x.isNaN then l.notANumber else if x < 0 then "-" ++ l.infinity else l.infinity
  | some p =>
    let magnitude :=
      if p.significand = 0 then "0" ++ l.wholeEnding
      else
        let d := Decimal.shortest p.significand p.exponent
        if l.leastPositional ≤ d.leading ∧ d.leading ≤ l.greatestPositional then l.positional d
        else l.scientific d
    if p.negative then "-" ++ magnitude else magnitude

end Layout

end TieredVectors
