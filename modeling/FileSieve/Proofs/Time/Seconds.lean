import FileSieve.Proofs.Number.Reading
import FileSieve.Proofs.Time.Zone
import FileSieve.Proofs.Time.Spacing

/-!
# Numbers of seconds in a text

A clock takes a text for a number of seconds when it is a sign, if any, and digits, perhaps with digits behind a point
(`Clock.isNumber`). Without a point the number is an integer (`SignedDigits`), which is read as it is written, unless it
has too many digits (`Clock.number_of_signed`). So the decimal text of an integer stands for the same instant as the
integer, if there is one (`Clock.read_ofInt`): an integer that has an instant is far from having too many digits.
-/

namespace FileSieve

/-! ### Signs and digits -/

/-- A sign, if any, and digits. -/
structure SignedDigits (t : Text) (negative : Bool) (digits : Text) : Prop where
  /-- Digits alone. -/
  all : Digits digits
  /-- At least one. -/
  nonempty : digits ≠ []
  /-- A minus makes them negative, a plus does not. -/
  text : t = digits ∧ negative = false ∨ t = ('+' : CodePoint) :: digits ∧ negative = false ∨
    t = ('-' : CodePoint) :: digits ∧ negative = true

variable {t digits : Text} {negative : Bool}

/-- The sign is found. -/
theorem SignedDigits.sign (h : SignedDigits t negative digits) : Numeral.sign t = (negative, digits) := by
  obtain ⟨rfl, rfl⟩ | ⟨rfl, rfl⟩ | ⟨rfl, rfl⟩ := h.text
  · exact Numeral.sign_of_head fun c hc => h.all c (List.mem_of_mem_head? hc)
  · rfl
  · rfl

theorem signedDigits_of_sign (hsign : Numeral.sign t = (negative, digits)) (hdigits : Digits digits)
    (hne : digits ≠ []) : SignedDigits t negative digits := by
  refine ⟨hdigits, hne, ?_⟩
  cases t with
  | nil =>
    obtain ⟨rfl, rfl⟩ := Prod.mk.inj hsign
    exact absurd rfl hne
  | cons c t =>
    rw [Numeral.sign] at hsign
    split_ifs at hsign with hminus hplus
    · obtain ⟨rfl, rfl⟩ := Prod.mk.inj hsign
      exact .inr (.inr ⟨by rw [hminus], rfl⟩)
    · obtain ⟨rfl, rfl⟩ := Prod.mk.inj hsign
      exact .inr (.inl ⟨by rw [hplus], rfl⟩)
    · obtain ⟨rfl, rfl⟩ := Prod.mk.inj hsign
      exact .inl ⟨rfl, rfl⟩

/-- There is no point and no white space in them. -/
theorem SignedDigits.point (h : SignedDigits t negative digits) {c : CodePoint} (hc : c ∈ t) :
    c ≠ '.' ∧ c.isBlank = false := by
  have hdigit {d : CodePoint} (hd : d ∈ digits) : d ≠ '.' ∧ d.isBlank = false := by
    refine ⟨?_, not_isBlank_of_isDigit (h.all d hd)⟩
    rintro rfl
    exact absurd (h.all _ hd) (by decide)
  obtain ⟨rfl, -⟩ | ⟨rfl, -⟩ | ⟨rfl, -⟩ := h.text
  · exact hdigit hc
  · obtain rfl | hc := List.mem_cons.mp hc
    · decide
    · exact hdigit hc
  · obtain rfl | hc := List.mem_cons.mp hc
    · decide
    · exact hdigit hc

/-- An integer is written as its sign and its digits. -/
theorem signedDigits_ofInt (n : Int) : SignedDigits (Text.ofInt n) (decide (n < 0)) (Text.ofNat n.natAbs) := by
  refine ⟨Text.digits_ofNat _, Text.ofNat_ne_nil _, ?_⟩
  cases n with
  | ofNat n => exact .inl ⟨rfl, by simp⟩
  | negSucc n => exact .inr (.inr ⟨rfl, by simp [Int.negSucc_lt_zero]⟩)

namespace Clock

/-- A sign and digits are a number of seconds. -/
theorem isNumber_of_signed (h : SignedDigits t negative digits) : isNumber t = true := by
  have hspan := Numeral.takeWhile_digits h.all [] (by simp)
  rw [List.append_nil] at hspan
  simp [isNumber, h.sign, hspan.1, hspan.2, h.nonempty]

/-- A number of seconds without a point is a sign and digits. -/
theorem signed_of_isNumber (h : isNumber t = true) (hpoint : ('.' : CodePoint) ∉ t) :
    ∃ negative digits, SignedDigits t negative digits := by
  obtain ⟨negative, digits, hsign⟩ : ∃ negative digits, Numeral.sign t = (negative, digits) := ⟨_, _, rfl⟩
  have hsubset : ('.' : CodePoint) ∉ digits := by
    intro hmem
    refine hpoint ?_
    cases t with
    | nil =>
      obtain ⟨-, rfl⟩ := Prod.mk.inj hsign
      exact hmem
    | cons c t =>
      rw [Numeral.sign] at hsign
      split_ifs at hsign
      all_goals
        obtain ⟨-, rfl⟩ := Prod.mk.inj hsign
      · exact .tail c hmem
      · exact .tail c hmem
      · exact hmem
  have hsplit := List.takeWhile_append_dropWhile (p := CodePoint.isDigit) (l := digits)
  simp only [isNumber, hsign, Bool.and_eq_true, Bool.not_eq_true', List.isEmpty_eq_false_iff] at h
  have hrest : digits.dropWhile CodePoint.isDigit = [] := by
    cases hcons : digits.dropWhile CodePoint.isDigit with
    | nil => rfl
    | cons c rest =>
      rw [hcons] at h
      simp only [Bool.and_eq_true, decide_eq_true_eq] at h
      rw [h.2.1] at hcons
      have hmem : ('.' : CodePoint) ∈ digits := by
        rw [← hsplit, hcons]
        simp
      exact absurd hmem hsubset
  rw [hrest, List.append_nil] at hsplit
  rw [hsplit] at h
  refine ⟨negative, digits, signedDigits_of_sign hsign ?_ h.1⟩
  rw [← hsplit]
  exact fun c hc => List.mem_takeWhile_imp hc

/-- Without a point a number of seconds is an integer, unless it has too many digits. -/
theorem number_of_signed (h : SignedDigits t negative digits) : number t =
    if digits.length > maxDigits then .error (.tooManyDigits digits.length)
    else .ok (.int (if negative then -(Numeral.value digits : Int) else Numeral.value digits)) := by
  have hpoint : t.contains ('.' : CodePoint) = false := by
    rw [← Bool.not_eq_true, List.contains_iff_mem]
    exact fun hmem => (h.point hmem).1 rfl
  rw [number, hpoint, toInt_of_sign h.sign h.all h.nonempty]
  by_cases hlong : digits.length > maxDigits
  · rw [if_pos hlong, if_pos hlong]
    rfl
  · rw [if_neg hlong, if_neg hlong]
    rfl

/-- A sign and digits are tidy. -/
theorem tidy_of_signed (h : SignedDigits t negative digits) : Spacing.tidy t = t := by
  have hsolid : ∀ c ∈ t, c.isBlank = false := fun c hc => (h.point hc).2
  exact Spacing.tidy_eq_self ⟨Spacing.neighbours_of_solid hsolid, fun c hc => hsolid c (List.mem_of_mem_head? hc),
    fun c hc => hsolid c (List.mem_of_getLast? hc)⟩

/-- The decimal text of an integer stands for the instant of the integer. -/
theorem read_ofInt {clock : Clock} {n : Int} {d : DateTime} (h : clock.ofSeconds (.int n) = .ok d) :
    clock.read (Text.ofInt n) = .ok d := by
  have hsigned := signedDigits_ofInt n
  have hlength : ¬(Text.ofNat n.natAbs).length > maxDigits :=
    Nat.not_lt.mpr ((Text.length_ofNat_le (by decide) (lt_of_ofSeconds h)).trans (by decide))
  have hvalue : (if decide (n < 0) = true then -(n.natAbs : Int) else n.natAbs) = n := by
    split_ifs with hneg
    · rw [decide_eq_true_eq] at hneg
      omega
    · rw [decide_eq_true_eq] at hneg
      omega
  have hnumber : number (Text.ofInt n) = .ok (.int n) := by
    rw [number_of_signed hsigned, if_neg hlength, Text.value_ofNat, hvalue]
  simp only [read, tidy_of_signed hsigned, isNumber_of_signed hsigned, hnumber, if_true]
  exact h

end Clock

end FileSieve
