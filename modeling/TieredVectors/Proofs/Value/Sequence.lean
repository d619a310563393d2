import TieredVectors.Proofs.Columns.Dense

/-!
# Sequences never overflow

A sequence can be made just when all its elements are words, although only the last of them is
looked at (`isSome_make?_iff`). Its elements are computed in 64 bits, in which nothing wraps around
up to the end (`Sequence.exactAt`), and so they are what they should be (`get?_eq_some_iff`).

`never_overflows` says so for every sequence, and what the words from one to another are and what
the beginning of a sequence is.
-/

namespace TieredVectors.Sequence

variable {start stride : Int32} {length i : Nat} {s : Sequence}

/-! ## Making sequences -/

/-- What is made is the sequence asked for, and every sequence can be made. -/
theorem make?_eq_some_iff :
    make? start stride length = some s ↔
      s.start = start ∧ s.stride = stride ∧ s.length = length := by
  constructor
  · intro h
    rw [make?] at h
    split at h
    · obtain rfl := Option.some.inj h
      exact ⟨rfl, rfl, rfl⟩
    · cases h
  · rintro ⟨rfl, rfl, rfl⟩
    have hlast : LastFits s.start s.stride s.length := by
      rcases Nat.eq_zero_or_pos s.length with hempty | hpos
      · exact .inl hempty
      · exact .inr (isSome_last?_iff.2 ⟨s.length_le, s.fits _ (Nat.sub_one_lt_of_lt hpos)⟩)
    exact dif_pos hlast

/-- Only the last element is checked, and yet all of them are words. -/
theorem isSome_make?_iff :
    (make? start stride length).isSome ↔ length ≤ maxLength ∧
      ∀ i < length, Word.Fits (start.toInt + stride.toInt * (i : Int)) := by
  rw [Option.isSome_iff_exists]
  constructor
  · rintro ⟨s, h⟩
    obtain ⟨rfl, rfl, rfl⟩ := make?_eq_some_iff.1 h
    exact ⟨s.length_le, s.fits⟩
  · rintro ⟨hlength, hfits⟩
    exact ⟨⟨start, stride, length, hlength, hfits⟩, make?_eq_some_iff.2 ⟨rfl, rfl, rfl⟩⟩

/-! ## Elements -/

/-- The element at a position is the word that should be there. -/
theorem get?_eq_some_iff {w : Int32} :
    s.get? i = some w ↔
      i < s.length ∧ w.toInt = s.start.toInt + s.stride.toInt * (i : Int) := by
  rw [get?_eq, Option.ite_none_right_eq_some, Option.some.injEq]
  refine and_congr_right fun hi => ?_
  rw [← Int32.toInt_inj, Word.toInt_ofInt (s.fits i hi)]
  exact eq_comm

/-! ## The words from one to another -/

theorem toInt_step (first last : Int32) :
    (step first last).toInt = if last.toInt < first.toInt then -1 else 1 := by
  unfold step
  split <;> rfl

theorem get?_inclusive_zero (first last : Int32) : (inclusive first last).get? 0 = some first := by
  rw [get?_eq_some_iff]
  exact ⟨Nat.succ_pos _, by simp [inclusive]⟩

/-- As many steps as the words are apart lead from the first to the last. -/
theorem get?_inclusive_last (first last : Int32) :
    (inclusive first last).get? (last.toInt - first.toInt).natAbs = some last := by
  rw [get?_eq_some_iff]
  refine ⟨Nat.lt_succ_self _, ?_⟩
  change last.toInt = first.toInt + (step first last).toInt * _
  rw [toInt_step]
  split <;> omega

/-! ## Beginnings -/

/-- The beginning of a sequence has its first elements. -/
theorem toList_take (s : Sequence) (n : Nat) : (s.take n).toList = s.toList.take n := by
  apply List.ext_getElem?
  intro i
  rw [getElem?_toList, List.getElem?_take, getElem?_toList]
  split
  next hn =>
    have hmin : i < min n s.length ↔ i < s.length := by omega
    exact if_congr hmin rfl rfl
  next hn =>
    have hmin : ¬ i < min n s.length := by omega
    exact if_neg hmin

/-- Sequences never overflow.

* A sequence is made if and only if its length is at most `2 ^ 63` and each of its elements is a
  word. It has the start, the stride and the length asked for, and every sequence can be made so.
* The words from `first` to `last`, both included, are one more than these are apart. They begin
  with `first`, go up or down by one and end with `last`.
* Up to the end of any sequence nothing wraps around when an element is looked up, and the element
  at `i` is `start + stride * i`; past the end there is none.
* Writing a sequence out gives as many elements as its length says, and those.
* The beginning of a sequence is itself a sequence, of the first `n` elements or of all. -/
theorem never_overflows :
    (∀ (start stride : Int32) (length : Nat),
      ((make? start stride length).isSome ↔ length ≤ maxLength ∧
        ∀ i < length, Word.Fits (start.toInt + stride.toInt * (i : Int))) ∧
      ∀ s, make? start stride length = some s ↔
        s.start = start ∧ s.stride = stride ∧ s.length = length) ∧
    (∀ first last : Int32,
      (inclusive first last).start = first ∧
      (inclusive first last).stride.toInt = (if last.toInt < first.toInt then -1 else 1) ∧
      (inclusive first last).length = (last.toInt - first.toInt).natAbs + 1 ∧
      (inclusive first last).get? 0 = some first ∧
      (inclusive first last).get? (last.toInt - first.toInt).natAbs = some last) ∧
    ∀ s : Sequence,
      (∀ i < s.length, s.ExactAt i ∧
        ∃ w, s.get? i = some w ∧ w.toInt = s.start.toInt + s.stride.toInt * (i : Int)) ∧
      (∀ i, s.length ≤ i → s.get? i = none) ∧
      s.toList.length = s.length ∧ (∀ i, s.toList[i]? = s.get? i) ∧
      ∀ n, (s.take n).length = min n s.length ∧ (s.take n).toList = s.toList.take n := by
  refine ⟨fun start stride length => ⟨isSome_make?_iff, fun s => make?_eq_some_iff⟩,
    fun first last => ?_, fun s => ⟨fun i hi => ?_, fun i hi => ?_, s.length_toList,
      s.getElem?_toList, fun n => ⟨rfl, s.toList_take n⟩⟩⟩
  · exact ⟨rfl, toInt_step first last, rfl, get?_inclusive_zero first last,
      get?_inclusive_last first last⟩
  · exact ⟨exactAt hi, _, get?_eq_some_iff.2 ⟨hi, Word.toInt_ofInt (s.fits i hi)⟩,
      Word.toInt_ofInt (s.fits i hi)⟩
  · rw [get?_eq, if_neg (Nat.not_lt.2 hi)]

/-- One word `2 ^ 63` times, which is as long as a sequence gets, and all words from the least to
the greatest. -/
theorem never_overflows_longest :
    (∃ s, make? 7 0 maxLength = some s ∧ s.ExactAt (maxLength - 1) ∧
      ∃ w, s.get? (maxLength - 1) = some w ∧ w.toInt = 7) ∧
    (inclusive Int32.minValue Int32.maxValue).length = 4294967296 ∧
    (inclusive Int32.minValue Int32.maxValue).get? 4294967295 = some Int32.maxValue := by
  obtain ⟨hmake, hinclusive, helements⟩ := never_overflows
  constructor
  · have hvalue (i : Nat) : (7 : Int32).toInt + (0 : Int32).toInt * (i : Int) = 7 := by
      rw [show (0 : Int32).toInt = 0 from rfl, Int.zero_mul]
      rfl
    have hfits : ∀ i < maxLength, Word.Fits ((7 : Int32).toInt + (0 : Int32).toInt * i) := by
      intro i _
      rw [hvalue]
      decide
    obtain ⟨s, hs⟩ := Option.isSome_iff_exists.1 ((hmake 7 0 maxLength).1.2 ⟨Nat.le_refl _, hfits⟩)
    obtain ⟨hstart, hstride, hlength⟩ := ((hmake 7 0 maxLength).2 s).1 hs
    obtain ⟨hexact, w, hget, hw⟩ := (helements s).1 (maxLength - 1) (by rw [hlength]; decide)
    refine ⟨s, hs, hexact, w, hget, ?_⟩
    rw [hw, hstart, hstride, hvalue]
  · obtain ⟨-, -, hlength, -, hlast⟩ := hinclusive Int32.minValue Int32.maxValue
    exact ⟨hlength, hlast⟩

end TieredVectors.Sequence
