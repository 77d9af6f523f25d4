import FileSieve.Value.Shown
import Mathlib.Data.List.Basic
import Mathlib.Data.List.Induction
import Mathlib.Tactic.SplitIfs

/-!
# Decimal digits

A number is written in decimal digits without a superfluous zero in front, or padded with zeros to a width. Either way
it is the value of its digits (`value_ofNat`, `value_padded`), and at a width that is wide enough as many digits are
written as the width says (`length_padded`). The value of a text of digits is in turn less than the power of ten of
its length, so a field of so many digits bounds what is read from it. An integer of too many digits is not written at
all (`TooLong`).
-/

namespace FileSieve

/-! ### One digit -/

theorem CodePoint.val_ofDigit {d : Nat} (h : d < 10) : (CodePoint.ofDigit d).val = 0x30 + d := by
  have hd : 0x30 + d < 0x110000 := by omega
  simp [ofDigit, ofNat, hd]

theorem CodePoint.isDigit_ofDigit {d : Nat} (h : d < 10) : (CodePoint.ofDigit d).isDigit = true := by
  simp only [isDigit, val_ofDigit h, Bool.and_eq_true, decide_eq_true_eq]
  omega

theorem CodePoint.digitValue_ofDigit {d : Nat} (h : d < 10) : (CodePoint.ofDigit d).digitValue = d := by
  rw [digitValue, val_ofDigit h]
  omega

theorem CodePoint.digitValue_lt {c : CodePoint} (h : c.isDigit = true) : c.digitValue < 10 := by
  simp only [isDigit, Bool.and_eq_true, decide_eq_true_eq] at h
  rw [digitValue]
  omega

theorem CodePoint.ofDigit_digitValue {c : CodePoint} (h : c.isDigit = true) : ofDigit c.digitValue = c := by
  apply Fin.ext
  rw [val_ofDigit (digitValue_lt h), digitValue]
  simp only [isDigit, Bool.and_eq_true, decide_eq_true_eq] at h
  omega

/-- What holds of the ten digits holds of every code point that is a digit. -/
theorem CodePoint.forall_digit {p : CodePoint → Bool} (h : ∀ d : Fin 10, p (ofDigit d) = true) {c : CodePoint}
    (hc : c.isDigit = true) : p c = true := by
  rw [← ofDigit_digitValue hc]
  exact h ⟨c.digitValue, digitValue_lt hc⟩

/-! ### The value of digits -/

/-- A text of digits alone. -/
def Digits (t : Text) : Prop :=
  ∀ c ∈ t, c.isDigit = true

theorem Digits.append {s t : Text} (hs : Digits s) (ht : Digits t) : Digits (s ++ t) := fun c hc =>
  (List.mem_append.mp hc).elim (hs c) (ht c)

namespace Numeral

theorem value_concat (t : Text) (c : CodePoint) : value (t ++ [c]) = value t * 10 + c.digitValue := by
  simp [value]

theorem value_zeros (k : Nat) (t : Text) : value (List.replicate k ('0' : CodePoint) ++ t) = value t := by
  induction k with
  | zero => rfl
  | succ k ih =>
    rw [List.replicate_succ, List.cons_append]
    exact ih

/-- The value of digits is less than the power of ten of their number. -/
theorem value_lt {t : Text} (h : Digits t) : value t < Nat.pow 10 t.length := by
  induction t using List.reverseRecOn with
  | nil => decide
  | append_singleton t c ih =>
    have ht : value t < 10 ^ t.length := ih fun d hd => h d (List.mem_append_left _ hd)
    have hc : c.digitValue < 10 := CodePoint.digitValue_lt (h c (by simp))
    rw [value_concat, List.length_append]
    change _ < 10 ^ (t.length + 1)
    rw [Nat.pow_succ]
    omega

theorem value_lt_of_length_le {t : Text} (h : Digits t) {k : Nat} (hk : t.length ≤ k) : value t < Nat.pow 10 k :=
  Nat.lt_of_lt_of_le (value_lt h) (Nat.pow_le_pow_right (by decide) hk)

end Numeral

/-! ### Numbers in digits -/

namespace Text

theorem decimalInto_eq (n : Nat) (acc : Text) : decimalInto n acc = ofNat n ++ acc := by
  induction n using Nat.strongRecOn generalizing acc with
  | ind n ih =>
    rw [ofNat, decimalInto, decimalInto.eq_def n []]
    split_ifs with h
    · rfl
    · have hlt : n / 10 < n := by omega
      rw [ih _ hlt, ih _ hlt [_], List.append_assoc]
      rfl

theorem ofNat_of_lt {n : Nat} (h : n < 10) : ofNat n = [CodePoint.ofDigit n] := by
  rw [ofNat, decimalInto, if_pos h]

theorem ofNat_of_le {n : Nat} (h : 10 ≤ n) : ofNat n = ofNat (n / 10) ++ [CodePoint.ofDigit (n % 10)] := by
  rw [ofNat, decimalInto, if_neg (by omega), decimalInto_eq]

/-- A number is the value of its digits. -/
theorem value_ofNat (n : Nat) : Numeral.value (ofNat n) = n := by
  induction n using Nat.strongRecOn with
  | ind n ih =>
    by_cases h : n < 10
    · rw [ofNat_of_lt h]
      simp [Numeral.value, CodePoint.digitValue_ofDigit h]
    · have hmod : n % 10 < 10 := Nat.mod_lt _ (by decide)
      rw [ofNat_of_le (by omega), Numeral.value_concat, ih _ (by omega), CodePoint.digitValue_ofDigit hmod]
      omega

theorem digits_ofNat (n : Nat) : Digits (ofNat n) := by
  induction n using Nat.strongRecOn with
  | ind n ih =>
    by_cases h : n < 10
    · rw [ofNat_of_lt h]
      exact List.forall_mem_singleton.mpr (CodePoint.isDigit_ofDigit h)
    · rw [ofNat_of_le (by omega)]
      exact (ih _ (by omega)).append
        (List.forall_mem_singleton.mpr (CodePoint.isDigit_ofDigit (Nat.mod_lt _ (by decide))))

theorem ofNat_ne_nil (n : Nat) : ofNat n ≠ [] := by
  by_cases h : n < 10
  · simp [ofNat_of_lt h]
  · simp [ofNat_of_le (Nat.le_of_not_lt h)]

/-- A number has no more digits than a power of ten that it is less than. -/
theorem length_ofNat_le {n k : Nat} (hk : k ≠ 0) (h : n < Nat.pow 10 k) : (ofNat n).length ≤ k := by
  induction k generalizing n with
  | zero => exact absurd rfl hk
  | succ k ih =>
    by_cases hn : n < 10
    · simp [ofNat_of_lt hn]
    · change n < 10 ^ (k + 1) at h
      rw [Nat.pow_succ] at h
      have hk : k ≠ 0 := by
        rintro rfl
        omega
      have hle := ih hk (n := n / 10) (show n / 10 < 10 ^ k by omega)
      rw [ofNat_of_le (by omega), List.length_append, List.length_singleton]
      omega

/-- A number above zero does not begin with a zero. -/
theorem head_ofNat {n : Nat} (h : n ≠ 0) : (ofNat n).head? ≠ some ('0' : CodePoint) := by
  induction n using Nat.strongRecOn with
  | ind n ih =>
    by_cases hn : n < 10
    · rw [ofNat_of_lt hn, List.head?_cons]
      intro hzero
      have hval : 0x30 + n = 0x30 := (CodePoint.val_ofDigit hn).symm.trans (congrArg Fin.val (Option.some.inj hzero))
      omega
    · rw [ofNat_of_le (by omega), List.head?_append_of_ne_nil _ (ofNat_ne_nil _)]
      exact ih _ (by omega) (by omega)

/-! ### Numbers with zeros in front -/

variable (width n : Nat)

theorem digits_padded : Digits (padded width n) := by
  have hzero : Digits (List.replicate (width - (ofNat n).length) ('0' : CodePoint)) := fun c hc => by
    rw [List.eq_of_mem_replicate hc]
    decide
  exact hzero.append (digits_ofNat n)

theorem value_padded : Numeral.value (padded width n) = n := by
  rw [padded, Numeral.value_zeros, value_ofNat]

variable {width n}

/-- A number that fits is written with as many digits as the width says. -/
theorem length_padded (hw : width ≠ 0) (h : n < Nat.pow 10 width) : (padded width n).length = width := by
  have hle := length_ofNat_le hw h
  rw [padded, List.length_append, List.length_replicate]
  omega

end Text

/-! ### Integers that are not written -/

/-- An integer of more digits than can be written. -/
def TooLong (n : Int) : Prop :=
  Nat.pow 10 maxDigits ≤ n.natAbs

/-- The value of digits is not one of them, if the digits are not too many. -/
theorem not_tooLong_value {t : Text} (h : Digits t) (hlength : t.length ≤ maxDigits) : ¬TooLong (Numeral.value t) := by
  rw [TooLong, Int.natAbs_natCast]
  exact Nat.not_le_of_lt (Numeral.value_lt_of_length_le h hlength)

theorem tooLong_neg (n : Int) : TooLong (-n) ↔ TooLong n := by
  rw [TooLong, TooLong, Int.natAbs_neg]

theorem Int.digits_of_not_tooLong {n : Int} (h : ¬TooLong n) : Int.digits n = .ok (Text.ofInt n) :=
  if_pos (Nat.lt_of_not_le h)

theorem Int.digits_of_tooLong {n : Int} (h : TooLong n) : Int.digits n = .error .tooLongToWrite :=
  if_neg (Nat.not_lt.mpr h)

theorem Value.plain_int (n : Int) : (Value.int n).plain = Int.digits n := by
  simp [Value.plain, Value.shown]

end FileSieve
