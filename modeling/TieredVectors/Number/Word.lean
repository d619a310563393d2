/-!
# Checked 32-bit integers

Integer data are 32-bit signed words. Arithmetic on them is exact or absent: an operation computes
over the unbounded integers and gives a word only if the exact result is one. `ofInt?_eq_some_iff`
says so for the conversion every operation goes through.
-/

namespace TieredVectors.Word

/-- Whether `z` is the value of a 32-bit signed word. -/
def Fits (z : Int) : Prop := -2147483648 ≤ z ∧ z < 2147483648

instance (z : Int) : Decidable (Fits z) := inferInstanceAs (Decidable (_ ∧ _))

/-- The word of value `z`, if there is one. -/
def ofInt? (z : Int) : Option Int32 :=
  if Fits z then some (Int32.ofInt z) else none

theorem fits_toInt (w : Int32) : Fits w.toInt := by
  have hle := w.le_toInt
  have hlt := w.toInt_lt
  exact ⟨by omega, by omega⟩

theorem toInt_ofInt {z : Int} (h : Fits z) : (Int32.ofInt z).toInt = z := by
  obtain ⟨hle, hlt⟩ := h
  exact Int32.toInt_ofInt_of_le (by omega) (by omega)

theorem ofInt?_eq_some_iff {z : Int} {w : Int32} : ofInt? z = some w ↔ w.toInt = z := by
  unfold ofInt?
  constructor
  · intro h
    split at h
    next hz =>
      obtain rfl : Int32.ofInt z = w := by simpa using h
      exact toInt_ofInt hz
    next => simp at h
  · rintro rfl
    simp [fits_toInt]

/-- The opposite `-x`, absent for the least word. -/
def neg? (x : Int32) : Option Int32 := ofInt? (-x.toInt)

/-- The magnitude of `x`, absent for the least word. -/
def abs? (x : Int32) : Option Int32 := ofInt? x.toInt.natAbs

/-- The sum `x + y`, if it is a word. -/
def add? (x y : Int32) : Option Int32 := ofInt? (x.toInt + y.toInt)

/-- The difference `x - y`, if it is a word. -/
def sub? (x y : Int32) : Option Int32 := ofInt? (x.toInt - y.toInt)

/-- The product `x * y`, if it is a word. -/
def mul? (x y : Int32) : Option Int32 := ofInt? (x.toInt * y.toInt)

/-- Whether `x / y`, rounded toward zero, is a word: `y` is not zero and the quotient fits. -/
def Divides (x y : Int32) : Prop := y.toInt ≠ 0 ∧ Fits (x.toInt.tdiv y.toInt)

instance (x y : Int32) : Decidable (Divides x y) := inferInstanceAs (Decidable (_ ∧ _))

/-- The remainder of the division toward zero; it has the sign of `x`. Absent whenever the quotient
is, so also for the least word divided by `-1`. -/
def rem? (x y : Int32) : Option Int32 :=
  if Divides x y then ofInt? (x.toInt.tmod y.toInt) else none

/-- The lesser of two words. -/
def least (x y : Int32) : Int32 := if x.toInt ≤ y.toInt then x else y

/-- The greater of two words. -/
def greatest (x y : Int32) : Int32 := if x.toInt ≤ y.toInt then y else x

end TieredVectors.Word
