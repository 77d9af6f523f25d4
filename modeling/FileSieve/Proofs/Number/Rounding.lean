import FileSieve.Proofs.Number.Reading
import Mathlib.Algebra.Order.Ring.Nat
import Mathlib.Data.Nat.Log
import Mathlib.Tactic.Linarith
import Mathlib.Tactic.Ring

/-!
# Rounding to a floating-point number

A count of units has a number of its own if it is an integer of at most 53 binary digits with zeros behind them
(`Binary64.Representable`). Rounding a quotient goes to such a count (`representable_nearest`) and passes none: what
has a number of its own and is not greater than the quotient is not greater than what it is rounded to
(`le_nearest`), and neither is it the other way round (`nearest_le`). So rounding keeps what has a number of its own
(`nearest_mul`), and it keeps the order of quotients (`nearest_mono`).

A decimal is read as the quotient that it is, rounded once (`Numeral.decimal_eq_round`). The reader takes a short cut
for powers of ten that are far outside of the format, which makes no difference.
-/

namespace FileSieve

namespace Binary64

variable {num den num' den' k n : Nat}

/-! ### The nearest integer -/

/-- A quotient is rounded to its integer part or to the next integer. -/
theorem roundQuotient_bounds (num den : Nat) :
    num / den ≤ roundQuotient num den ∧ roundQuotient num den ≤ num / den + 1 := by
  simp only [roundQuotient]
  split_ifs <;> omega

theorem le_roundQuotient (hden : 0 < den) (h : k * den ≤ num) : k ≤ roundQuotient num den :=
  ((Nat.le_div_iff_mul_le hden).mpr h).trans (roundQuotient_bounds num den).1

theorem roundQuotient_le (hden : 0 < den) (h : num ≤ k * den) : roundQuotient num den ≤ k := by
  have hle : num / den ≤ k := Nat.div_le_of_le_mul (by rwa [Nat.mul_comm])
  obtain hlt | heq := Nat.lt_or_eq_of_le hle
  · exact (roundQuotient_bounds num den).2.trans hlt
  · -- The quotient is the integer itself, so nothing is left to be rounded.
    have hrest : num % den = 0 := by
      have hsplit := Nat.div_add_mod num den
      rw [heq, Nat.mul_comm] at hsplit
      omega
    simp only [roundQuotient, hrest, heq]
    rw [if_pos (by omega)]

/-- Integer parts are in the order of the quotients. -/
theorem div_mono (hden : 0 < den) (hden' : 0 < den') (h : num * den' ≤ num' * den) : num / den ≤ num' / den' := by
  rw [Nat.le_div_iff_mul_le hden']
  refine Nat.le_of_mul_le_mul_right ?_ hden
  calc num / den * den' * den = num / den * den * den' := Nat.mul_right_comm _ _ _
    _ ≤ num * den' := Nat.mul_le_mul_right _ (Nat.div_mul_le_self num den)
    _ ≤ num' * den := h

/-- And so are the nearest integers. -/
theorem roundQuotient_mono (hden : 0 < den) (hden' : 0 < den') (h : num * den' ≤ num' * den) :
    roundQuotient num den ≤ roundQuotient num' den' := by
  have hle : num / den ≤ num' / den' := div_mono hden hden' h
  obtain hlt | heq := Nat.lt_or_eq_of_le hle
  · exact (roundQuotient_bounds num den).2.trans (hlt.trans_le (roundQuotient_bounds num' den').1)
  · -- The integer parts are the same, so the rests are in the order of the quotients.
    have hrest : num % den * den' ≤ num' % den' * den := by
      have hnum := Nat.div_add_mod num den
      have hnum' := Nat.div_add_mod num' den'
      rw [← hnum, ← hnum', heq] at h
      linarith
    have hbelow (hless : 2 * (num' % den') < den') : 2 * (num % den) < den := by
      by_contra hle
      linarith [Nat.mul_le_mul_right den' (Nat.le_of_not_lt hle), Nat.mul_lt_mul_of_pos_right hless hden]
    have habove (hless : den < 2 * (num % den)) : den' < 2 * (num' % den') := by
      by_contra hle
      linarith [Nat.mul_le_mul_right den (Nat.le_of_not_lt hle), Nat.mul_lt_mul_of_pos_right hless hden']
    simp only [roundQuotient, heq]
    split_ifs <;> omega

/-! ### Counts with a number of their own -/

/-- A count of at most 53 binary digits, with zeros behind them. -/
def Representable (units : Nat) : Prop :=
  ∃ m k, m < 2 ^ 53 ∧ units = m * 2 ^ k

theorem representable_of_lt (h : n < 2 ^ 53) : Representable n :=
  ⟨n, 0, h, (Nat.mul_one n).symm⟩

theorem representable_two_pow (k : Nat) : Representable (2 ^ k) :=
  ⟨1, k, by decide, (Nat.one_mul _).symm⟩

theorem Representable.mul_two_pow (h : Representable n) (j : Nat) : Representable (n * 2 ^ j) := by
  obtain ⟨m, k, hm, rfl⟩ := h
  exact ⟨m, k + j, hm, by rw [Nat.mul_assoc, Nat.pow_add]⟩

theorem representable_mul_two_pow_iff {j : Nat} : Representable (n * 2 ^ j) ↔ Representable n := by
  constructor
  · rintro ⟨m, k, hm, h⟩
    obtain hlt | hle := Nat.lt_or_ge k j
    · -- More zeros are behind the product than it has as a count, so the count itself has few digits.
      have hshift : n * 2 ^ (j - k) = m := by
        refine Nat.eq_of_mul_eq_mul_right (Nat.two_pow_pos k) ?_
        rw [Nat.mul_assoc, ← Nat.pow_add, Nat.sub_add_cancel hlt.le, h]
      exact representable_of_lt ((Nat.le_mul_of_pos_right n (Nat.two_pow_pos _)).trans_lt (hshift ▸ hm))
    · refine ⟨m, k - j, hm, Nat.eq_of_mul_eq_mul_right (Nat.two_pow_pos j) ?_⟩
      rw [h, Nat.mul_assoc, ← Nat.pow_add, Nat.sub_add_cancel hle]
  · intro h
    exact h.mul_two_pow j

/-- The first integer of more digits is a power of two. -/
theorem representable_of_le (h : n ≤ 2 ^ 53) : Representable n := by
  obtain hlt | rfl := Nat.lt_or_eq_of_le h
  · exact representable_of_lt hlt
  · exact representable_two_pow 53

theorem gap_eq (units : Nat) : gap units = 2 ^ (units.log2 - 52) := rfl

theorem gap_pos (units : Nat) : 0 < gap units := Nat.two_pow_pos _

/-- Greater counts are further apart. -/
theorem gap_dvd_gap (h : n ≤ k) : gap n ∣ gap k := by
  rw [gap_eq, gap_eq]
  refine Nat.pow_dvd_pow 2 (Nat.sub_le_sub_right ?_ 52)
  rw [Nat.log2_eq_log_two, Nat.log2_eq_log_two]
  exact Nat.log_mono_right h

/-- The counts with a number of their own are the multiples of the distance between neighbours. -/
theorem representable_iff_gap_dvd : Representable n ↔ gap n ∣ n := by
  constructor
  · rintro ⟨m, k, hm, rfl⟩
    by_cases hzero : m = 0
    · simp [hzero]
    · have hlog : m.log2 < 53 := (Nat.log2_lt hzero).mpr hm
      have hlog' : (m * 2 ^ k).log2 < 53 + k := by
        rw [Nat.log2_lt (Nat.mul_ne_zero hzero (Nat.two_pow_pos k).ne'), Nat.pow_add]
        exact Nat.mul_lt_mul_of_pos_right hm (Nat.two_pow_pos k)
      rw [gap_eq]
      exact (Nat.pow_dvd_pow 2 (by omega)).trans (Nat.dvd_mul_left _ _)
  · rintro ⟨m, hm⟩
    refine ⟨m, n.log2 - 52, ?_, by rw [← gap_eq, Nat.mul_comm, ← hm]⟩
    refine Nat.lt_of_mul_lt_mul_left (a := gap n) ?_
    calc gap n * m = n := hm.symm
      _ < 2 ^ (n.log2 + 1) := Nat.lt_log2_self
      _ ≤ 2 ^ (n.log2 - 52 + 53) := Nat.pow_le_pow_right (by decide) (by omega)
      _ = gap n * 2 ^ 53 := Nat.pow_add _ _ _

/-! ### The nearest count -/

/-- The count that a quotient is rounded to. -/
def nearest (num den : Nat) : Nat :=
  roundQuotient num (den * gap (num / den)) * gap (num / den)

theorem round_eq (negative : Bool) (num den : Nat) : round negative num den =
    if nearest num den < overflow then finite negative (nearest num den) else infinite negative := rfl

/-- A multiple of the distance between neighbours is not passed from above, -/
theorem le_nearest_of_dvd (hden : 0 < den) (hdvd : gap (num / den) ∣ k) (h : k * den ≤ num) : k ≤ nearest num den := by
  obtain ⟨m, rfl⟩ := hdvd
  have hm : m * (den * gap (num / den)) ≤ num :=
    calc m * (den * gap (num / den)) = gap (num / den) * m * den := by ring
      _ ≤ num := h
  rw [nearest, Nat.mul_comm]
  exact Nat.mul_le_mul_right _ (le_roundQuotient (Nat.mul_pos hden (gap_pos _)) hm)

/-- and not from below either. -/
theorem nearest_le_of_dvd (hden : 0 < den) (hdvd : gap (num / den) ∣ k) (h : num ≤ k * den) : nearest num den ≤ k := by
  obtain ⟨m, rfl⟩ := hdvd
  have hm : num ≤ m * (den * gap (num / den)) :=
    calc num ≤ gap (num / den) * m * den := h
      _ = m * (den * gap (num / den)) := by ring
  rw [nearest, Nat.mul_comm]
  exact Nat.mul_le_mul_left _ (roundQuotient_le (Nat.mul_pos hden (gap_pos _)) hm)

/-- A count with a number of its own that is not greater than a quotient is not greater than what the quotient is
rounded to. -/
theorem le_nearest (hden : 0 < den) (hk : Representable k) (h : k * den ≤ num) : k ≤ nearest num den := by
  have hquotient : k ≤ num / den := (Nat.le_div_iff_mul_le hden).mpr h
  by_cases hk0 : k = 0
  · rw [hk0]
    exact Nat.zero_le _
  have hlog : k.log2 ≤ (num / den).log2 := (Nat.le_log2 (by omega)).mpr ((Nat.log2_self_le hk0).trans hquotient)
  obtain hlt | heq := Nat.lt_or_eq_of_le hlog
  · -- The power of two at the front of the quotient is in between.
    have hpower : 2 ^ (num / den).log2 ≤ num / den := Nat.log2_self_le (by omega)
    have hdvd : gap (num / den) ∣ 2 ^ (num / den).log2 := Nat.pow_dvd_pow 2 (Nat.sub_le _ _)
    calc k ≤ 2 ^ (num / den).log2 := ((Nat.log2_lt hk0).mp hlt).le
      _ ≤ nearest num den := le_nearest_of_dvd hden hdvd ((Nat.le_div_iff_mul_le hden).mp hpower)
  · have hdvd : gap (num / den) ∣ k := by
      rw [gap_eq, ← heq, ← gap_eq]
      exact representable_iff_gap_dvd.mp hk
    exact le_nearest_of_dvd hden hdvd h

/-- And one that is not less is not less than that. -/
theorem nearest_le (hden : 0 < den) (hk : Representable k) (h : num ≤ k * den) : nearest num den ≤ k := by
  have hquotient : num / den ≤ k := Nat.div_le_of_le_mul (by rwa [Nat.mul_comm])
  exact nearest_le_of_dvd hden ((gap_dvd_gap hquotient).trans (representable_iff_gap_dvd.mp hk)) h

/-- Rounding keeps what has a number of its own. -/
theorem nearest_mul (hden : 0 < den) (hk : Representable k) : nearest (k * den) den = k :=
  Nat.le_antisymm (nearest_le hden hk (Nat.le_refl _)) (le_nearest hden hk (Nat.le_refl _))

theorem gap_dvd_nearest (num den : Nat) : gap (num / den) ∣ nearest num den := Nat.dvd_mul_left _ _

/-- A quotient is less than the power of two that is next to its integer part. -/
theorem le_two_pow_mul (hden : 0 < den) : num ≤ 2 ^ ((num / den).log2 + 1) * den := by
  have hlt : num / den < 2 ^ ((num / den).log2 + 1) := Nat.lt_log2_self
  exact ((Nat.div_lt_iff_lt_mul hden).mp hlt).le

/-- What a quotient is rounded to has a number of its own. -/
theorem representable_nearest (hden : 0 < den) (num : Nat) : Representable (nearest num den) := by
  have hle : nearest num den ≤ 2 ^ ((num / den).log2 + 1) :=
    nearest_le hden (representable_two_pow _) (le_two_pow_mul hden)
  obtain ⟨m, hm⟩ := gap_dvd_nearest num den
  have hm53 : m ≤ 2 ^ 53 := by
    refine Nat.le_of_mul_le_mul_left ?_ (gap_pos (num / den))
    calc gap (num / den) * m = nearest num den := hm.symm
      _ ≤ 2 ^ ((num / den).log2 + 1) := hle
      _ ≤ 2 ^ ((num / den).log2 - 52 + 53) := Nat.pow_le_pow_right (by decide) (by omega)
      _ = gap (num / den) * 2 ^ 53 := Nat.pow_add _ _ _
  rw [hm, Nat.mul_comm, gap_eq]
  exact (representable_of_le hm53).mul_two_pow _

/-- Rounding keeps the order of quotients. -/
theorem nearest_mono (hden : 0 < den) (hden' : 0 < den') (h : num * den' ≤ num' * den) :
    nearest num den ≤ nearest num' den' := by
  have hlog : (num / den).log2 ≤ (num' / den').log2 := by
    rw [Nat.log2_eq_log_two, Nat.log2_eq_log_two]
    exact Nat.log_mono_right (div_mono hden hden' h)
  obtain hlt | heq := Nat.lt_or_eq_of_le hlog
  · -- The power of two at the front of the greater quotient is in between.
    have hpower : 2 ^ (num' / den').log2 ≤ num' / den' := by
      refine Nat.log2_self_le ?_
      rintro hzero
      simp [hzero] at hlt
    calc nearest num den ≤ 2 ^ ((num / den).log2 + 1) :=
          nearest_le hden (representable_two_pow _) (le_two_pow_mul hden)
      _ ≤ 2 ^ (num' / den').log2 := Nat.pow_le_pow_right (by decide) hlt
      _ ≤ nearest num' den' :=
          le_nearest hden' (representable_two_pow _) ((Nat.le_div_iff_mul_le hden').mp hpower)
  · have hgap : gap (num / den) = gap (num' / den') := by rw [gap_eq, gap_eq, heq]
    rw [nearest, nearest, hgap]
    refine Nat.mul_le_mul_right _ (roundQuotient_mono (Nat.mul_pos hden (gap_pos _)) (Nat.mul_pos hden' (gap_pos _)) ?_)
    rw [← Nat.mul_assoc, ← Nat.mul_assoc]
    exact Nat.mul_le_mul_right _ h

/-- A quotient of less than a half is rounded to zero. -/
theorem nearest_eq_zero (h : 2 * num < den) : nearest num den = 0 := by
  have hzero : num / den = 0 := Nat.div_eq_of_lt (by omega)
  have hrest : num % den = num := Nat.mod_eq_of_lt (by omega)
  have hgap : gap 0 = 1 := rfl
  rw [nearest, hzero, hgap, Nat.mul_one, Nat.mul_one, roundQuotient, hzero, hrest, if_pos h]

/-! ### Integers -/

theorem one_eq_two_pow : ∃ k, one = 2 ^ k := ⟨1074, by decide +kernel⟩

theorem one_pos : 0 < one := by
  decide +kernel

/-- An integer with a number of its own is rounded to it. -/
theorem nearest_integer (h : Representable n) : nearest (n * one) 1 = n * one := by
  obtain ⟨k, hone⟩ := one_eq_two_pow
  have hmul := nearest_mul Nat.one_pos (h.mul_two_pow k)
  rwa [Nat.mul_one, ← hone] at hmul

/-- An integer stays what it is when it is rounded and cut off exactly if it has a number of its own. -/
theorem nearest_div_one_eq_iff : nearest (n * one) 1 / one = n ↔ Representable n := by
  obtain ⟨k, hone⟩ := one_eq_two_pow
  constructor
  · intro h
    obtain hlt | hge := Nat.lt_or_ge n (2 ^ 53)
    · exact representable_of_lt hlt
    · -- So great a number is rounded to an integer.
      have hdvd : one ∣ nearest (n * one) 1 := by
        refine Dvd.dvd.trans ?_ (gap_dvd_nearest _ _)
        have hlog : 53 + k ≤ (n * one / 1).log2 := by
          rw [Nat.div_one, hone, Nat.le_log2 (Nat.mul_pos (by omega) (Nat.two_pow_pos k)).ne', Nat.pow_add]
          exact Nat.mul_le_mul_right _ hge
        rw [gap_eq, hone]
        exact Nat.pow_dvd_pow 2 (by rw [← hone]; omega)
      have hkept : nearest (n * one) 1 = n * 2 ^ k := by
        rw [← hone, ← Nat.div_mul_cancel hdvd, h]
      exact representable_mul_two_pow_iff.mp (hkept ▸ representable_nearest Nat.one_pos _)
  · intro h
    rw [nearest_integer h, Nat.mul_div_cancel _ one_pos]

/-! ### The ends of the format -/

theorem overflow_pos : 0 < overflow := by
  decide +kernel

theorem representable_overflow : Representable overflow :=
  representable_iff_gap_dvd.mpr (by decide +kernel)

theorem round_of_nearest_eq_zero (negative : Bool) (h : nearest num den = 0) :
    round negative num den = finite negative 0 := by
  rw [round_eq, h, if_pos overflow_pos]

/-- A quotient beyond the format is rounded to an infinity. -/
theorem round_of_overflow (negative : Bool) (hden : 0 < den) (h : overflow * den ≤ num) :
    round negative num den = infinite negative := by
  rw [round_eq, if_neg (Nat.not_lt.mpr (le_nearest hden representable_overflow h))]

end Binary64

/-! ### Decimals -/

namespace Numeral

open Binary64 (one overflow round round_of_nearest_eq_zero round_of_overflow nearest_eq_zero)

variable {c : CodePoint} {t whole fraction : Text}

theorem value_append (s t : Text) : value (s ++ t) = value s * 10 ^ t.length + value t := by
  induction t using List.reverseRecOn with
  | nil => simp [value]
  | append_singleton t d ih =>
    rw [← List.append_assoc, value_concat, value_concat, ih, List.length_append, List.length_singleton, Nat.pow_succ]
    ring

theorem value_cons (c : CodePoint) (t : Text) : value (c :: t) = c.digitValue * 10 ^ t.length + value t := by
  have hc : value [c] = c.digitValue := by simp [value]
  rw [← hc]
  exact value_append [c] t

/-- Zeros in front do not count. -/
theorem value_dropWhile_zero (t : Text) : value (t.dropWhile (· == ('0' : CodePoint))) = value t := by
  induction t with
  | nil => rfl
  | cons c t ih =>
    by_cases hc : c = '0'
    · have hzero : c.digitValue = 0 := by rw [hc]; rfl
      rw [List.dropWhile_cons_of_pos (by simp [hc]), ih, value_cons, hzero, Nat.zero_mul, Nat.zero_add]
    · rw [List.dropWhile_cons_of_neg (by simp [hc])]

/-- Digits without a zero in front are at least the power of ten of all but one of them. -/
theorem le_value (h : Digits t) (hhead : ∀ c ∈ t.head?, c ≠ '0') (hne : t ≠ []) : 10 ^ t.length ≤ value t * 10 := by
  cases t with
  | nil => exact absurd rfl hne
  | cons c t =>
    have hpos : 1 ≤ c.digitValue := by
      have hc := h c List.mem_cons_self
      refine Nat.one_le_iff_ne_zero.mpr fun hzero => hhead c rfl ?_
      rw [← CodePoint.ofDigit_digitValue hc, hzero]
      rfl
    rw [value_cons, List.length_cons, Nat.pow_succ]
    refine Nat.mul_le_mul_right 10 ?_
    calc 10 ^ t.length = 1 * 10 ^ t.length := (Nat.one_mul _).symm
      _ ≤ c.digitValue * 10 ^ t.length := Nat.mul_le_mul_right _ hpos
      _ ≤ c.digitValue * 10 ^ t.length + value t := Nat.le_add_right _ _

/-- The short cut for powers of ten that are far outside of the format makes no difference. -/
theorem scaled_eq_round {m digits k : Nat} (hupper : m < 10 ^ digits) (hlower : m ≠ 0 → 10 ^ digits ≤ m * 10) :
    scaled false m digits (-(k : Int)) = round false (m * one) (10 ^ k) := by
  have hpos (k : Nat) : 0 < 10 ^ k := Nat.pow_pos (by decide)
  rw [scaled]
  split_ifs with hzero hgreat hsmall
  · rw [hzero, Nat.zero_mul, round_of_nearest_eq_zero false (nearest_eq_zero (hpos k))]
  · have hpower : 10 ^ (400 + k) ≤ m := by
      refine Nat.le_of_mul_le_mul_right ?_ (by decide : 0 < 10)
      calc 10 ^ (400 + k) * 10 = 10 ^ (400 + k + 1) := (Nat.pow_succ ..).symm
        _ ≤ 10 ^ digits := Nat.pow_le_pow_right (by decide) (by omega)
        _ ≤ m * 10 := hlower hzero
    have hlimit : overflow ≤ 10 ^ 400 * one := by decide +kernel
    refine (round_of_overflow false (hpos k) ?_).symm
    calc overflow * 10 ^ k ≤ 10 ^ 400 * one * 10 ^ k := Nat.mul_le_mul_right _ hlimit
      _ = 10 ^ (400 + k) * one := by rw [Nat.pow_add, Nat.mul_right_comm]
      _ ≤ m * one := Nat.mul_le_mul_right _ hpower
  · have hlimit : 2 * one ≤ 10 ^ 400 := by decide +kernel
    have hshift (k : Nat) : m * 10 ^ k < 10 ^ (digits + k) := by
      rw [Nat.pow_add]
      exact Nat.mul_lt_mul_of_pos_right hupper (hpos k)
    refine (round_of_nearest_eq_zero false (nearest_eq_zero ?_)).symm
    calc 2 * (m * one) = m * (2 * one) := Nat.mul_left_comm _ _ _
      _ ≤ m * 10 ^ 400 := Nat.mul_le_mul_left _ hlimit
      _ < 10 ^ (digits + 400) := hshift 400
      _ ≤ 10 ^ k := Nat.pow_le_pow_right (by decide) (by omega)
  · cases k with
    | zero => simp [Binary64.ofDecimal]
    | succ k => rfl

/-- Digits before and behind a point are read as the quotient that they are, rounded once. -/
theorem decimal_eq_round (h : Digits (whole ++ fraction)) :
    decimal whole fraction = round false (value (whole ++ fraction) * one) (10 ^ fraction.length) := by
  have hdrop : Digits ((whole ++ fraction).dropWhile (· == ('0' : CodePoint))) :=
    fun c hc => h c ((List.dropWhile_sublist _).subset hc)
  rw [← value_dropWhile_zero, decimal, Int.zero_sub]
  refine scaled_eq_round (value_lt hdrop) fun hvalue => le_value hdrop (fun c hc => ?_) ?_
  · simpa using head_dropWhile c hc
  · rintro hnil
    rw [hnil] at hvalue
    exact hvalue rfl

end Numeral

end FileSieve
