import TieredVectors.Number.Wide

/-!
# Arithmetic sequences of words

An integer vector whose elements are equally spaced is kept as its first element, its stride and its
length. Every element is a word, which the type records, so that looking an element up can only fail
past the end.

Elements are computed in 64 bits, and `make?` checks the last one alone: the elements between it and
the first lie between them (`fits_between`), and so do the distances from the first, which is why
nothing wraps around when an element is looked up (`exactAt`).
-/

namespace TieredVectors

/-- A sequence has at most `2 ^ 63` elements, one more than the greatest step count. -/
def Sequence.maxLength : Nat := Nat.pow 2 63

/-- The words `start, start + stride, …`, `length` of them. -/
structure Sequence where
  /-- The first element. -/
  start : Int32
  /-- The difference of neighbouring elements. -/
  stride : Int32
  /-- The number of elements. -/
  length : Nat
  /-- Positions can be counted in 64 bits. -/
  length_le : length ≤ Sequence.maxLength
  /-- Every element is a word. -/
  fits : ∀ i < length, Word.Fits (start.toInt + stride.toInt * (i : Int))
deriving DecidableEq

namespace Sequence

theorem fits_between {a s : Int} {i n : Nat} (hi : i ≤ n) (ha : Word.Fits a)
    (hl : Word.Fits (a + s * (n : Int))) : Word.Fits (a + s * (i : Int)) := by
  have hin : (i : Int) ≤ (n : Int) := by exact_mod_cast hi
  have h0 : (0 : Int) ≤ (i : Int) := Int.natCast_nonneg i
  obtain ⟨ha1, ha2⟩ := ha
  obtain ⟨hl1, hl2⟩ := hl
  rcases Int.le_total 0 s with hs | hs
  · have h1 : s * (i : Int) ≤ s * (n : Int) := Int.mul_le_mul_of_nonneg_left hin hs
    have h2 : 0 ≤ s * (i : Int) := Int.mul_nonneg hs h0
    exact ⟨by omega, by omega⟩
  · have h1 : s * (n : Int) ≤ s * (i : Int) := Int.mul_le_mul_of_nonpos_left hs hin
    have h2 : s * (i : Int) ≤ 0 := Int.mul_nonpos_of_nonpos_of_nonneg hs h0
    exact ⟨by omega, by omega⟩

/-! ## Elements in 64 bits -/

/-- The distance from the first element after a number of steps. -/
def offset (stride : Int32) (steps : Int64) : Int64 := stride.toInt64 * steps

/-- The element after a number of steps. -/
def element (start stride : Int32) (steps : Int64) : Int64 := start.toInt64 + offset stride steps

variable {start stride : Int32} {steps : Int64}

/-- The distance does not wrap around if the element is a word. -/
theorem toInt_offset (h : Word.Fits (start.toInt + stride.toInt * steps.toInt)) :
    (offset stride steps).toInt = stride.toInt * steps.toInt := by
  have hs := Word.fits_toInt start
  unfold Word.Fits at h hs
  have hfits : Wide.Fits (stride.toInt64.toInt * steps.toInt) := by
    rw [Int32.toInt_toInt64]
    exact ⟨by omega, by omega⟩
  rw [offset, Wide.toInt_mul hfits, Int32.toInt_toInt64]

/-- Nor does the element, if it is a word. -/
theorem toInt_element (h : Word.Fits (start.toInt + stride.toInt * steps.toInt)) :
    (element start stride steps).toInt = start.toInt + stride.toInt * steps.toInt := by
  have hfits : Wide.Fits (start.toInt64.toInt + (offset stride steps).toInt) := by
    rw [Int32.toInt_toInt64, toInt_offset h]
    exact ⟨by have := h.1; omega, by have := h.2; omega⟩
  rw [element, Wide.toInt_add hfits, Int32.toInt_toInt64, toInt_offset h]

/-- The last of `length` elements, if nothing wraps around on the way to it and it is a word. -/
def last? (start stride : Int32) (length : Nat) : Option Int32 := do
  let steps ← Wide.ofNat? (length - 1)
  let distance ← Wide.mul? stride.toInt64 steps
  let last ← Wide.add? distance start.toInt64
  Wide.toWord? last

/-- Whether the last of `length` elements, if there is one, is a word. -/
def LastFits (start stride : Int32) (length : Nat) : Prop :=
  length = 0 ∨ (last? start stride length).isSome

instance (start stride : Int32) (length : Nat) : Decidable (LastFits start stride length) :=
  inferInstanceAs (Decidable (_ ∨ _))

/-- Checked arithmetic finds the last element if there is one. -/
theorem isSome_last?_iff {length : Nat} :
    (last? start stride length).isSome ↔ length ≤ maxLength ∧
      Word.Fits (start.toInt + stride.toInt * ((length - 1 : Nat) : Int)) := by
  have hmax : maxLength = 9223372036854775808 := rfl
  simp only [last?, Option.isSome_iff_exists, Option.bind_eq_bind, Option.bind_eq_some_iff,
    Wide.ofNat?_eq_some_iff, Wide.mul?, Wide.add?, Wide.checked?_eq_some_iff,
    Wide.toWord?_eq_some_iff, Int32.toInt_toInt64]
  constructor
  · rintro ⟨w, steps, hsteps, _, ⟨rfl, hoffset⟩, _, ⟨rfl, hlast⟩, hw⟩
    have hvalue : w.toInt = start.toInt + stride.toInt * ((length - 1 : Nat) : Int) := by
      rw [hw, hlast, hoffset, hsteps, Int.add_comm]
    have hbound := (Wide.fits_toInt steps).2
    exact ⟨by omega, hvalue ▸ Word.fits_toInt w⟩
  · rintro ⟨hlength, hfits⟩
    have hsteps : (Int64.ofNat (length - 1)).toInt = ((length - 1 : Nat) : Int) :=
      Wide.toInt_ofNat (by omega)
    rw [← hsteps] at hfits
    have hlast : (offset stride (.ofNat (length - 1)) + start.toInt64).toInt =
        start.toInt + stride.toInt * (Int64.ofNat (length - 1)).toInt := by
      rw [Int64.add_comm]
      exact toInt_element hfits
    have hsum : (offset stride (.ofNat (length - 1)) + start.toInt64).toInt =
        (offset stride (.ofNat (length - 1))).toInt + start.toInt := by
      rw [hlast, toInt_offset hfits, Int.add_comm]
    exact ⟨_, _, hsteps, _, ⟨rfl, toInt_offset hfits⟩, _, ⟨rfl, hsum⟩,
      (Word.toInt_ofInt hfits).trans hlast.symm⟩

theorem fits_of_lastFits {length : Nat} (h : LastFits start stride length) :
    ∀ i < length, Word.Fits (start.toInt + stride.toInt * (i : Int)) := by
  intro i hi
  rcases h with rfl | h
  · omega
  · exact fits_between (by omega) (Word.fits_toInt start) (isSome_last?_iff.1 h).2

theorem length_le_of_lastFits {length : Nat} (h : LastFits start stride length) :
    length ≤ maxLength := by
  rcases h with rfl | h
  · exact Nat.zero_le _
  · exact (isSome_last?_iff.1 h).1

/-- The sequence with the given start, stride and length, unless its last element is no word or it
is too long. -/
def make? (start stride : Int32) (length : Nat) : Option Sequence :=
  if h : LastFits start stride length then
    some ⟨start, stride, length, length_le_of_lastFits h, fits_of_lastFits h⟩
  else none

/-- One step from `first` toward `last`. -/
def step (first last : Int32) : Int32 := if last.toInt < first.toInt then -1 else 1

theorem length_inclusive_le (first last : Int32) :
    (last.toInt - first.toInt).natAbs + 1 ≤ maxLength := by
  have hf := Word.fits_toInt first
  have hl := Word.fits_toInt last
  have hmax : maxLength = 9223372036854775808 := rfl
  unfold Word.Fits at hf hl
  omega

theorem fits_inclusive (first last : Int32) (i : Nat)
    (hi : i < (last.toInt - first.toInt).natAbs + 1) :
    Word.Fits (first.toInt + (step first last).toInt * (i : Int)) := by
  have hf := Word.fits_toInt first
  have hl := Word.fits_toInt last
  have hneg : (-1 : Int32).toInt = -1 := by decide
  have hone : (1 : Int32).toInt = 1 := by decide
  unfold Word.Fits step at *
  split
  · rw [hneg]
    omega
  · rw [hone]
    omega

/-- The words from `first` to `last`, both included, counting down if `last` is the lesser. -/
def inclusive (first last : Int32) : Sequence where
  start := first
  stride := step first last
  length := (last.toInt - first.toInt).natAbs + 1
  length_le := length_inclusive_le first last
  fits := fits_inclusive first last

/-- Whether there is no element. -/
def isEmpty (s : Sequence) : Bool := s.length == 0

/-- The element at `index`, if the sequence reaches so far. -/
def get? (s : Sequence) (index : Nat) : Option Int32 :=
  if index < s.length then do
    let steps ← Wide.ofNat? index
    Wide.toWord? (element s.start s.stride steps)
  else none

/-- The first `n` elements, or all if there are fewer. -/
def take (s : Sequence) (n : Nat) : Sequence where
  start := s.start
  stride := s.stride
  length := min n s.length
  length_le := Nat.le_trans (Nat.min_le_right n s.length) s.length_le
  fits := fun i hi => s.fits i (by omega)

/-- All elements. -/
def toList (s : Sequence) : List Int32 := (List.range s.length).filterMap s.get?

/-- On the way to an element nothing wraps around: its position is a 64-bit word, and so are, with
their exact values, the distance from the first element and the element itself. -/
def ExactAt (s : Sequence) (i : Nat) : Prop :=
  ∃ steps : Int64, Wide.ofNat? i = some steps ∧
    (offset s.stride steps).toInt = s.stride.toInt * (i : Int) ∧
    (element s.start s.stride steps).toInt = s.start.toInt + s.stride.toInt * (i : Int)

theorem exactAt {s : Sequence} {i : Nat} (hi : i < s.length) : s.ExactAt i := by
  have hsteps : (Int64.ofNat i).toInt = i := Wide.toInt_ofNat (Nat.lt_of_lt_of_le hi s.length_le)
  have hfits := s.fits i hi
  rw [← hsteps] at hfits
  refine ⟨.ofNat i, Wide.ofNat?_eq_some_iff.2 hsteps, ?_, ?_⟩
  · rw [toInt_offset hfits, hsteps]
  · rw [toInt_element hfits, hsteps]

/-- Up to the end no element is missing, and each is what it should be. -/
theorem get?_eq (s : Sequence) (i : Nat) :
    s.get? i = if i < s.length then some (Int32.ofInt (s.start.toInt + s.stride.toInt * (i : Int)))
      else none := by
  unfold get?
  split
  next hi =>
    obtain ⟨steps, hsteps, -, helement⟩ := exactAt hi
    rw [hsteps, Option.bind_eq_bind, Option.bind_some, Wide.toWord?_eq_some_iff, helement]
    exact Word.toInt_ofInt (s.fits i hi)
  next => rfl

end Sequence

end TieredVectors
