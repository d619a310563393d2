import TieredVectors.Number.Word

/-!
# 64-bit integers

Elements of sequences are computed in 64-bit signed words. The plain operations on these wrap
around, while `add?` and `mul?` are absent where they would. Either way the result is exact if its
value is that of a 64-bit word (`toInt_add`, `toInt_mul`).
-/

namespace TieredVectors.Wide

/-- Whether `z` is the value of a 64-bit signed word. -/
def Fits (z : Int) : Prop := -9223372036854775808 ≤ z ∧ z < 9223372036854775808

/-- The word `x`, unless its value is not the one that it stands for. -/
def checked? (x : Int64) (value : Int) : Option Int64 := if x.toInt = value then some x else none

/-- The 64-bit word of value `n`, if there is one. -/
def ofNat? (n : Nat) : Option Int64 := checked? (.ofNat n) n

/-- The sum `x + y`, unless it wraps around. -/
def add? (x y : Int64) : Option Int64 := checked? (x + y) (x.toInt + y.toInt)

/-- The product `x * y`, unless it wraps around. -/
def mul? (x y : Int64) : Option Int64 := checked? (x * y) (x.toInt * y.toInt)

/-- The 32-bit word of the same value, if there is one. -/
def toWord? (x : Int64) : Option Int32 := Word.ofInt? x.toInt

variable {x y : Int64} {n : Nat} {z : Int}

theorem fits_toInt (x : Int64) : Fits x.toInt := by
  have hle := x.le_toInt
  have hlt := x.toInt_lt
  exact ⟨by omega, by omega⟩

theorem checked?_eq_some_iff : checked? x z = some y ↔ x = y ∧ x.toInt = z := by
  rw [checked?, Option.ite_none_right_eq_some, Option.some.injEq]
  exact And.comm

theorem bmod_eq (h : Fits z) : z.bmod Int64.size = z := by
  obtain ⟨hle, hlt⟩ := h
  have hsize : (Int64.size : Int) = 18446744073709551616 := rfl
  exact Int.bmod_eq_of_le (by omega) (by omega)

theorem toInt_ofNat (h : n < 9223372036854775808) : (Int64.ofNat n).toInt = n :=
  Int64.toInt_ofNat_of_lt h

theorem toInt_add (h : Fits (x.toInt + y.toInt)) : (x + y).toInt = x.toInt + y.toInt :=
  (Int64.toInt_add x y).trans (bmod_eq h)

theorem toInt_mul (h : Fits (x.toInt * y.toInt)) : (x * y).toInt = x.toInt * y.toInt :=
  (Int64.toInt_mul x y).trans (bmod_eq h)

theorem ofNat?_eq_some_iff : ofNat? n = some x ↔ x.toInt = n := by
  rw [ofNat?, checked?_eq_some_iff]
  constructor
  · rintro ⟨rfl, h⟩
    exact h
  · intro h
    have hn : (Int64.ofNat n).toInt = n := toInt_ofNat (by have := (fits_toInt x).2; omega)
    exact ⟨Int64.toInt_inj.1 (hn.trans h.symm), hn⟩

theorem toWord?_eq_some_iff {w : Int32} : toWord? x = some w ↔ w.toInt = x.toInt :=
  Word.ofInt?_eq_some_iff

end TieredVectors.Wide
