import FileSieve.Proofs.Number.Decimal
import FileSieve.Proofs.Text.Trim

/-!
# Numbers that are read

A sign and digits are read as the integer that they are, unless they are too many (`toInt_of_sign`), and digits, perhaps
with digits behind a point, as the floating-point number next to the decimal (`toBinary64_whole`, `toBinary64_point`),
which is not less than zero (`Numeral.nonnegative_scaled`). There is nothing in them for a reader to take away first: no
white space, no low line, no digit of another script.
-/

namespace FileSieve

/-! ### Texts of digits, signs and points -/

/-- A text of digits, signs and points. -/
def Marks (t : Text) : Prop :=
  ∀ c ∈ t, c.isDigit = true ∨ c ∈ ("+-." : Text)

variable {t digits whole fraction : Text}

theorem Digits.marks (h : Digits t) : Marks t := fun c hc => .inl (h c hc)

theorem Marks.cons {c : CodePoint} (hc : c ∈ ("+-." : Text)) (h : Marks t) : Marks (c :: t) :=
  List.forall_mem_cons.mpr ⟨.inr hc, h⟩

theorem Marks.append {s : Text} (hs : Marks s) (ht : Marks t) : Marks (s ++ t) :=
  List.forall_mem_append.mpr ⟨hs, ht⟩

/-- What a reader of numbers looks at in a code point. -/
theorem Marks.point (h : Marks t) {c : CodePoint} (hc : c ∈ t) :
    c.val < 0x7F ∧ c.isAsciiSpace = false ∧ c.isAsciiUpper = false ∧ c ≠ '_' := by
  obtain hdigit | hmark := h c hc
  · simp only [CodePoint.isDigit, Bool.and_eq_true, decide_eq_true_eq] at hdigit
    have hlow : ('_' : CodePoint).val = 0x5F := rfl
    refine ⟨by omega, ?_, ?_, fun heq => ?_⟩
    · simp [CodePoint.isAsciiSpace]
      omega
    · simp [CodePoint.isAsciiUpper]
      omega
    · rw [heq] at hdigit
      omega
  · obtain rfl | rfl | rfl : c = '+' ∨ c = '-' ∨ c = '.' := by simpa [Text.ofString, Text.ofChars] using hmark
    all_goals decide

namespace Numeral

theorem body_of_marks (h : Marks t) : body t = t := by
  have hplain : plain t = t := (List.map_congr_left fun c hc => if_pos (h.point hc).1).trans (List.map_id' t)
  rw [body, hplain]
  exact trim_eq_self (fun c hc => (h.point (List.mem_of_mem_head? hc)).2.1) fun c hc =>
    (h.point (List.mem_of_getLast? hc)).2.1

theorem withoutLowLines_of_marks (h : Marks t) : withoutLowLines t = some t := by
  have hspaced (afterDigit : Bool) : spacedWell afterDigit t = true := by
    induction t generalizing afterDigit with
    | nil => rfl
    | cons c t ih =>
      rw [spacedWell, if_neg (h.point List.mem_cons_self).2.2.2]
      exact ih (fun d hd => h d (.tail c hd)) _
  rw [withoutLowLines, if_pos (hspaced false), List.filter_eq_self.mpr]
  exact fun c hc => decide_eq_true (h.point hc).2.2.2

theorem asciiLower_of_marks (h : Marks t) : asciiLower t = t :=
  (List.map_congr_left fun c hc => if_neg (by simp [(h.point hc).2.2.1])).trans (List.map_id' t)

theorem allDigits_iff : allDigits t = true ↔ t ≠ [] ∧ Digits t := by
  simp [allDigits, Digits]

/-- In front of a digit there is no sign. -/
theorem sign_of_head (h : ∀ c ∈ t.head?, c.isDigit = true) : sign t = (false, t) := by
  cases t with
  | nil => rfl
  | cons c t =>
    have hnot : c ≠ '-' ∧ c ≠ '+' := by
      have hc := h c rfl
      constructor <;>
      · rintro rfl
        exact absurd hc (by decide)
    rw [sign, if_neg hnot.1, if_neg hnot.2]

end Numeral

/-! ### Integers -/

/-- A sign and digits are the integer that they are, unless the digits are too many. -/
theorem toInt_of_sign {negative : Bool} (hsign : Numeral.sign t = (negative, digits)) (hdigits : Digits digits)
    (hne : digits ≠ []) :
    t.toInt = if digits.length > maxDigits then .error (.tooLong digits.length)
      else .ok (if negative then -(Numeral.value digits : Int) else Numeral.value digits) := by
  have hmarks : Marks t := by
    cases t with
    | nil => exact List.forall_mem_nil _
    | cons c t =>
      rw [Numeral.sign] at hsign
      split_ifs at hsign with hminus hplus
      · obtain ⟨-, rfl⟩ := Prod.mk.inj hsign
        exact hdigits.marks.cons (hminus ▸ by decide)
      · obtain ⟨-, rfl⟩ := Prod.mk.inj hsign
        exact hdigits.marks.cons (hplus ▸ by decide)
      · obtain ⟨-, rfl⟩ := Prod.mk.inj hsign
        exact hdigits.marks
  simp only [Text.toInt, Numeral.body_of_marks hmarks, hsign, Numeral.withoutLowLines_of_marks hdigits.marks,
    Numeral.allDigits_iff.mpr ⟨hne, hdigits⟩, if_true]

/-- An integer that is read has not too many digits to be written. -/
theorem not_tooLong_of_toInt {n : Int} (h : t.toInt = .ok n) : ¬TooLong n := by
  unfold Text.toInt at h
  dsimp only at h
  split at h
  · cases h
  · rename_i digits hdigits
    split_ifs at h with hall hlength hnegative
    · obtain rfl := Except.ok.inj h
      rw [tooLong_neg]
      exact not_tooLong_value (Numeral.allDigits_iff.mp hall).2 (Nat.le_of_not_lt hlength)
    · obtain rfl := Except.ok.inj h
      exact not_tooLong_value (Numeral.allDigits_iff.mp hall).2 (Nat.le_of_not_lt hlength)

/-! ### Floating-point numbers -/

namespace Binary64

/-- A number that is not less than zero, or an infinity of this kind. -/
def Nonnegative (x : Binary64) : Prop :=
  (∃ units, x = finite false units) ∨ x = infinite false

theorem nonnegative_round (num den : Nat) : (round false num den).Nonnegative := by
  rw [round]
  generalize overflow = limit
  split_ifs
  · exact .inl ⟨_, rfl⟩
  · exact .inr rfl

theorem nonnegative_ofDecimal (m : Nat) (e : Int) : (ofDecimal false m e).Nonnegative := by
  cases e <;>
  · rw [ofDecimal]
    exact nonnegative_round _ _

theorem Nonnegative.mul {x : Binary64} (h : x.Nonnegative) {units : Nat} (hunits : units ≠ 0) :
    (x.mul (finite false units)).Nonnegative := by
  obtain ⟨a, rfl⟩ | rfl := h
  · rw [Binary64.mul]
    exact nonnegative_round _ _
  · rw [Binary64.mul, if_neg hunits]
    exact .inr rfl

end Binary64

namespace Numeral

theorem nonnegative_scaled (m digits : Nat) (e : Int) : (scaled false m digits e).Nonnegative := by
  rw [scaled]
  split_ifs
  · exact .inl ⟨_, rfl⟩
  · exact .inr rfl
  · exact .inl ⟨_, rfl⟩
  · exact Binary64.nonnegative_ofDecimal _ _

/-- The number next to the decimal of digits before and behind a point. -/
def decimal (whole fraction : Text) : Binary64 :=
  let digits := (whole ++ fraction).dropWhile (· == ('0' : CodePoint))
  scaled false (value digits) digits.length (0 - fraction.length)

/-- Digits are taken whole in front of anything that is not a digit. -/
theorem takeWhile_digits (hwhole : Digits whole) (rest : Text) (hrest : ∀ c ∈ rest.head?, c.isDigit = false) :
    (whole ++ rest).takeWhile CodePoint.isDigit = whole ∧ (whole ++ rest).dropWhile CodePoint.isDigit = rest := by
  rw [List.takeWhile_append_of_pos hwhole, List.dropWhile_append_of_pos hwhole]
  cases rest with
  | nil => simp
  | cons c rest => simp [hrest c rfl]

theorem decimal_of_whole (hwhole : Digits whole) (hne : whole ≠ []) : decimal? false whole = some (decimal whole []) := by
  have hspan := takeWhile_digits hwhole [] (by simp)
  rw [List.append_nil] at hspan
  simp [decimal?, hspan.1, hspan.2, hne, exponent?, decimal]

theorem decimal_of_point (hwhole : Digits whole) (hne : whole ≠ []) (hfraction : Digits fraction) :
    decimal? false (whole ++ ('.' : CodePoint) :: fraction) = some (decimal whole fraction) := by
  have hspan := takeWhile_digits hwhole (('.' : CodePoint) :: fraction) (by simp; decide)
  have hbehind := takeWhile_digits hfraction [] (by simp)
  rw [List.append_nil] at hbehind
  simp [decimal?, hspan.1, hspan.2, hbehind.1, hbehind.2, hne, exponent?, decimal]

end Numeral

theorem toBinary64_of_head (h : Marks t) (hne : t ≠ []) (hhead : ∀ c ∈ t.head?, c.isDigit = true) :
    t.toBinary64? = Numeral.decimal? false t := by
  have hname {c : CodePoint} (hletter : c.isDigit = false) (name : Text) : t ≠ c :: name := by
    rintro rfl
    simp [hhead c rfl] at hletter
  rw [Text.toBinary64?, Numeral.body_of_marks h, Numeral.withoutLowLines_of_marks h]
  simp only [Option.bind_eq_bind, Option.bind_some, Numeral.sign_of_head hhead, Numeral.asciiLower_of_marks h]
  have hinf : ¬(decide (t = ("inf" : Text)) || decide (t = ("infinity" : Text))) = true := by
    simp [Text.ofString, Text.ofChars, hname (by decide : CodePoint.isDigit 'i' = false)]
  have hnan : t ≠ ("nan" : Text) := hname (by decide : CodePoint.isDigit 'n' = false) _
  rw [if_neg hinf, if_neg hnan]

/-- Digits are the floating-point number next to them. -/
theorem toBinary64_whole (hwhole : Digits whole) (hne : whole ≠ []) :
    whole.toBinary64? = some (Numeral.decimal whole []) := by
  rw [toBinary64_of_head hwhole.marks hne fun c hc => hwhole c (List.mem_of_mem_head? hc),
    Numeral.decimal_of_whole hwhole hne]

/-- And so are digits with digits behind a point. -/
theorem toBinary64_point (hwhole : Digits whole) (hne : whole ≠ []) (hfraction : Digits fraction) :
    (whole ++ ('.' : CodePoint) :: fraction).toBinary64? = some (Numeral.decimal whole fraction) := by
  have hmarks := hwhole.marks.append (hfraction.marks.cons (by decide : ('.' : CodePoint) ∈ ("+-." : Text)))
  rw [toBinary64_of_head hmarks (by simp), Numeral.decimal_of_point hwhole hne hfraction]
  rw [List.head?_append_of_ne_nil _ hne]
  exact fun c hc => hwhole c (List.mem_of_mem_head? hc)

end FileSieve
