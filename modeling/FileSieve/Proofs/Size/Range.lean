import FileSieve.Proofs.Number.Reading
import FileSieve.Size.Reading

/-!
# Sizes in range

What is read as a size is in range (`le_of_parse`), so it can be written. A number of units that is not less than zero
gives a size or is out of range (`settled_ofFloat`), however great it is: what is too great is found out before it is
cut off to an integer. An integer gives one or the other unless it has too many digits to be written
(`settled_inRange`).
-/

namespace FileSieve

namespace Size

variable {n : Nat}

theorem outOfRange_ne_ok (value : Magnitude) : outOfRange value ≠ .ok n := by
  unfold outOfRange
  cases value with
  | float x => simp
  | int k =>
    cases hk : FileSieve.Int.digits k <;> simp [hk]

theorem le_of_inRange {k : Int} (h : inRange k = .ok n) : n ≤ maxSize := by
  unfold inRange at h
  split_ifs at h with hout
  · exact absurd h (outOfRange_ne_ok _)
  · obtain rfl := Except.ok.inj h
    simp only [Bool.or_eq_true, decide_eq_true_eq, not_or] at hout
    omega

theorem inRange_of_le (h : n ≤ maxSize) : inRange n = .ok n := by
  rw [inRange, if_neg]
  · rfl
  · simp only [Bool.or_eq_true, decide_eq_true_eq, not_or]
    omega

theorem le_of_ofFloat {x : Binary64} {unit : SizeUnit} (h : ofFloat x unit = .ok n) : n ≤ maxSize := by
  simp only [ofFloat] at h
  split at h
  · exact absurd h (outOfRange_ne_ok _)
  · split at h
    · exact le_of_inRange h
    · simp at h

/-- Sizes that are read are in range. -/
theorem le_of_parse {t : Text} (h : parse t = .ok n) : n ≤ maxSize := by
  simp only [parse] at h
  split at h
  · exact le_of_ofFloat h
  · split at h
    · simp at h
    · split_ifs at h
      exact le_of_inRange h

theorem maxSize_lt {digits : Nat} (h : 19 ≤ digits) : maxSize < Nat.pow 10 digits :=
  calc maxSize < Nat.pow 10 19 := by decide
    _ ≤ Nat.pow 10 digits := Nat.pow_le_pow_right (by decide) h

/-- A size in range can be written. -/
theorem not_tooLong (h : n ≤ maxSize) : ¬TooLong n :=
  Nat.not_le_of_lt (lt_of_le_of_lt h (maxSize_lt (by decide)))

/-! ### Sizes and numbers that are none -/

/-- A size, or a number that is out of range. -/
inductive Settled : Except Fault Nat → Prop
  /-- A size. -/
  | size {n : Nat} : n ≤ maxSize → Settled (.ok n)
  /-- A number that is out of range. -/
  | outOfRange {value : Magnitude} {shown : Text} : Settled (.error (.outOfRange value shown))

theorem settled_outOfRange {value : Magnitude} (h : ∀ k, value = .int k → ¬TooLong k) : Settled (outOfRange value) := by
  cases value with
  | float x => exact .outOfRange
  | int k =>
    unfold outOfRange
    simp only [Int.digits_of_not_tooLong (h k rfl)]
    exact .outOfRange

theorem settled_inRange {k : Int} (h : ¬TooLong k) : Settled (inRange k) := by
  by_cases hout : (decide (k < 0) || decide ((maxSize : Int) < k)) = true
  · rw [inRange, if_pos hout]
    exact settled_outOfRange fun _ hk => Magnitude.int.inj hk ▸ h
  · rw [inRange, if_neg hout]
    simp only [Bool.or_eq_true, decide_eq_true_eq, not_or] at hout
    exact .size (by omega)

/-- A number that is not greater than the greatest size is one when it is cut off. -/
theorem quotient_le {units : Nat} (h : (Binary64.finite false units).compareInt? maxSize ≠ some .gt) :
    units / Binary64.one ≤ maxSize := by
  rw [Binary64.compareInt?] at h
  generalize Binary64.one = one at h ⊢
  have hle : (units : Int) ≤ maxSize * one := by
    by_contra hgt
    exact h (congrArg some (Int.compare_eq_gt.mpr (Int.not_le.mp hgt)))
  have hle : units ≤ one * maxSize := by
    rw [Nat.mul_comm]
    exact_mod_cast hle
  exact Nat.div_le_of_le_mul hle

/-- A unit is the number of its bytes. -/
theorem ofInt_bytes (unit : SizeUnit) : Binary64.ofInt unit.bytes = .finite false (unit.bytes * Binary64.one) := by
  cases unit <;> decide +kernel

theorem settled_ofFloat {x : Binary64} (h : x.Nonnegative) (unit : SizeUnit) : Settled (ofFloat x unit) := by
  have hunits : unit.bytes * Binary64.one ≠ 0 := by
    cases unit <;> decide +kernel
  have hbytes := h.mul hunits
  rw [← ofInt_bytes unit] at hbytes
  rw [ofFloat]
  generalize x.mul (Binary64.ofInt unit.bytes) = bytes at hbytes
  obtain ⟨units, rfl⟩ | rfl := hbytes
  · by_cases hgreat : (Binary64.finite false units).compareInt? maxSize = some .gt
    · rw [if_pos hgreat]
      exact .outOfRange
    · rw [if_neg hgreat]
      exact settled_inRange (not_tooLong (quotient_le hgreat))
  · exact .outOfRange

end Size

end FileSieve
