/-!
# Exact operations on doubles

The operations on double-precision numbers that the core library leaves to the platform: rounding to
an integer toward zero, the remainder of a division, the lesser and the greater of two numbers. They
are computed from the parts of a finite double, which is exactly `± significand * 2 ^ exponent`.
-/

namespace TieredVectors.Double

/-- A finite double as `± significand * 2 ^ exponent`. -/
structure Parts where
  /-- The sign bit. -/
  negative : Bool
  /-- The significand, less than `2 ^ 53`. -/
  significand : Nat
  /-- The power of two that the significand counts; at least `-1074`. -/
  exponent : Int
deriving Repr, DecidableEq

/-- The parts of `x`, absent for infinities and for what is not a number. -/
def parts? (x : Float) : Option Parts :=
  let bits := x.toBits.toNat
  let negative := bits / Nat.pow 2 63 == 1
  let biased : Nat := bits / Nat.pow 2 52 % Nat.pow 2 11
  let fraction : Nat := bits % Nat.pow 2 52
  if biased = 2047 then none
  else if biased = 0 then some ⟨negative, fraction, -1074⟩
  else some ⟨negative, fraction + Nat.pow 2 52, biased - 1075⟩

/-- The double with the given parts, for a significand below `2 ^ 53` and an exponent of at least
`-1074` whose value is not beyond the largest double. -/
def ofParts (p : Parts) : Float :=
  let sign := if p.negative then Nat.pow 2 63 else 0
  let shift := min (52 - p.significand.log2) (p.exponent + 1074).toNat
  let significand := p.significand * Nat.pow 2 shift
  let magnitude :=
    if significand < Nat.pow 2 52 then significand
    else (p.exponent - shift + 1075).toNat * Nat.pow 2 52 + (significand - Nat.pow 2 52)
  Float.ofBits (UInt64.ofNat (sign + magnitude))

/-- Not a number. -/
def nan : Float := Float.ofBits 0x7ff8000000000000

/-- The integer next to `x` toward zero, absent for infinities and for what is not a number. -/
def truncate? (x : Float) : Option Int :=
  (parts? x).map fun p =>
    let magnitude : Nat :=
      if 0 ≤ p.exponent then p.significand * Nat.pow 2 p.exponent.toNat
      else p.significand / Nat.pow 2 (-p.exponent).toNat
    if p.negative then -(magnitude : Int) else magnitude

/-- The exact remainder of the division of `x` by `y` toward zero; it has the sign of `x`. There is
none for an infinite `x` or a zero `y`, and an infinite `y` leaves `x` as it is. -/
def remainder (x y : Float) : Float :=
  match parts? x, parts? y with
  | some a, some b =>
    if b.significand = 0 then nan
    else
      let exponent := min a.exponent b.exponent
      let scaled (p : Parts) : Nat := p.significand * Nat.pow 2 (p.exponent - exponent).toNat
      ofParts ⟨a.negative, scaled a % scaled b, exponent⟩
  | some _, none => if y.isNaN then nan else x
  | none, _ => nan

/-- The lesser of two doubles; of a number and a non-number it is the number. -/
def least (x y : Float) : Float :=
  if x.isNaN then y else if y.isNaN then x else if x < y then x else y

/-- The greater of two doubles; of a number and a non-number it is the number. -/
def greatest (x y : Float) : Float :=
  if x.isNaN then y else if y.isNaN then x else if x < y then y else x

/-- The order of two doubles; there is none if one of them is not a number. -/
def compare? (x y : Float) : Option Ordering :=
  if x < y then some .lt else if y < x then some .gt else if x.beq y then some .eq else none

/-- The double of the same value as a word. -/
def ofWord (w : Int32) : Float := Float.ofInt w.toInt

end TieredVectors.Double
