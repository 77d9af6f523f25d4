import FileSieve.Proofs.Number.Rounding
import FileSieve.Proofs.Size.Outcome
import Mathlib.Data.Rat.Floor

/-!
# Decimal sizes

A decimal number with a unit behind it (`Amount`) is rounded to a floating-point number, multiplied by the bytes of its
unit and cut off (`Amount.parse_iff`). The unit is a power of two, so nothing is lost when it is multiplied
(`round_mul_bytes`), and a whole number of bytes below 2 to the power of 53 has a number of its own when it is divided
by the unit. So rounding passes no whole number of bytes, and what is left is one next to the size (`decimal_rounded`).
-/

namespace FileSieve.Size

open Binary64 (nearest one overflow)
open Predicate (Spaces)

/-! ### Rounding, multiplying and cutting off -/

variable {num den r : Nat} {unit : SizeUnit}

theorem bytes_eq_two_pow (unit : SizeUnit) : ∃ j, unit.bytes = 2 ^ j := by
  cases unit with
  | byte => exact ⟨0, rfl⟩
  | kilo => exact ⟨10, rfl⟩
  | mega => exact ⟨20, rfl⟩
  | giga => exact ⟨30, rfl⟩
  | tera => exact ⟨40, rfl⟩

theorem bytes_pos (unit : SizeUnit) : 0 < unit.bytes := by
  obtain ⟨j, hj⟩ := bytes_eq_two_pow unit
  rw [hj]
  exact Nat.two_pow_pos j

theorem maxSize_mul_one_lt : maxSize * one < overflow := by
  decide +kernel

/-- Nothing is lost when a number is multiplied by the bytes of a unit. -/
theorem round_mul_bytes (hden : 0 < den) : (Binary64.round false num den).mul (Binary64.ofInt unit.bytes) =
    if nearest num den * unit.bytes < overflow then .finite false (nearest num den * unit.bytes) else .infinite false := by
  have hkept : nearest (nearest num den * unit.bytes * one) one = nearest num den * unit.bytes := by
    obtain ⟨j, hj⟩ := bytes_eq_two_pow unit
    rw [hj]
    exact Binary64.nearest_mul Binary64.one_pos ((Binary64.representable_nearest hden num).mul_two_pow j)
  rw [ofInt_bytes, Binary64.round_eq]
  split_ifs with hnum hbytes hbytes
  · rw [Binary64.mul, ← Nat.mul_assoc, Binary64.round_eq, hkept, if_pos hbytes]
    rfl
  · rw [Binary64.mul, ← Nat.mul_assoc, Binary64.round_eq, hkept, if_neg hbytes]
    rfl
  · exact absurd ((Nat.le_mul_of_pos_right _ (bytes_pos unit)).trans_lt hbytes) hnum
  · rw [Binary64.mul, if_neg (Nat.mul_pos (bytes_pos unit) Binary64.one_pos).ne']
    rfl

theorem compareInt_gt_iff {units : Nat} :
    (Binary64.finite false units).compareInt? maxSize = some .gt ↔ maxSize * one < units := by
  rw [Binary64.compareInt?, Option.some_inj, Int.compare_eq_gt, ← Int.natCast_mul]
  exact Int.ofNat_lt

/-- A quotient is rounded, multiplied by the bytes of the unit and cut off. -/
theorem ofFloat_round_iff (hden : 0 < den) : ofFloat (Binary64.round false num den) unit = .ok r ↔
    nearest num den * unit.bytes ≤ maxSize * one ∧ r = nearest num den * unit.bytes / one := by
  simp only [ofFloat, round_mul_bytes hden]
  generalize nearest num den * unit.bytes = units
  by_cases hgreat : maxSize * one < units
  · have hout : (if units < overflow then Binary64.finite false units else .infinite false).compareInt? maxSize =
        some .gt := by
      split_ifs with hfinite
      · exact compareInt_gt_iff.mpr hgreat
      · rfl
    rw [if_pos hout]
    exact ⟨fun h => absurd h (outOfRange_ne_ok _), fun h => absurd hgreat (Nat.not_lt.mpr h.1)⟩
  · have hle : units ≤ maxSize * one := Nat.le_of_not_lt hgreat
    have hsize : units / one ≤ maxSize := Nat.div_le_of_le_mul (by rwa [Nat.mul_comm])
    rw [if_pos (hle.trans_lt maxSize_mul_one_lt), if_neg (mt compareInt_gt_iff.mp hgreat)]
    simp only [Binary64.truncate?, Binary64.signed]
    rw [if_neg Bool.false_ne_true, inRange_of_le hsize, Except.ok.injEq]
    exact ⟨fun h => ⟨hle, h.symm⟩, fun h => h.2.symm⟩

/-! ### Amounts -/

/-- A decimal number and a unit behind it. -/
structure Amount where
  /-- The digits in front. -/
  whole : Text
  /-- The decimals. -/
  decimals : Text
  /-- White space. -/
  space : Text
  /-- The name of the unit. -/
  name : Text
  /-- The unit. -/
  unit : SizeUnit
  /-- There are digits alone in front, -/
  digits : Digits whole
  /-- and at least one. -/
  nonempty : whole ≠ []
  /-- The decimals have a mark and digits, or there are none. -/
  decimal : Decimals decimals
  /-- The white space is of ASCII. -/
  spaces : Spaces space
  /-- The name is one of the unit. -/
  named : SizeUnit.ofName? name = some unit

namespace Amount

/-- An amount as it is written. -/
def text (a : Amount) : Text :=
  a.whole ++ (a.decimals ++ (a.space ++ a.name))

/-- The digits of the number, without the mark between them, as an integer. -/
def mantissa (a : Amount) : Nat :=
  Numeral.value (a.whole ++ a.decimals.tail)

/-- How many of these digits are decimals. -/
def places (a : Amount) : Nat :=
  a.decimals.tail.length

/-- The floating-point number next to the number, in the least steps of the format. -/
def units (a : Amount) : Nat :=
  nearest (a.mantissa * one) (10 ^ a.places)

/-- The number. -/
def number (a : Amount) : ℚ :=
  Numeral.value a.whole + Numeral.value a.decimals.tail / 10 ^ a.places

/-- The bytes of the amount, of which one may be in part. -/
def bytes (a : Amount) : ℚ :=
  a.number * a.unit.bytes

end Amount

variable {name : Text}

/-- The unit is the byte or one of its multiples. -/
theorem unit_cases (h : SizeUnit.ofName? name = some unit) :
    (name = "B" ∧ unit = .byte) ∨ (SizeUnit.multiples.lookup name = some unit ∧ unit ≠ .byte) := by
  rw [SizeUnit.ofName?, SizeUnit.names, List.lookup_cons] at h
  split at h
  · rename_i hname
    exact .inl ⟨eq_of_beq hname, (Option.some.inj h).symm⟩
  · refine .inr ⟨h, ?_⟩
    obtain ⟨front, back, hsplit, -⟩ := List.lookup_eq_some_iff.mp h
    have hmem : (name, unit) ∈ SizeUnit.multiples := by simp [hsplit]
    exact (by decide : ∀ entry ∈ SizeUnit.multiples, entry.2 ≠ .byte) _ hmem

theorem beginsWithUpper_of_unit (h : SizeUnit.ofName? name = some unit) : BeginsWithUpper name := by
  obtain ⟨rfl, -⟩ | ⟨hlookup, -⟩ := unit_cases h
  · exact ⟨_, _, rfl, rfl⟩
  · exact beginsWithUpper_of_lookup hlookup

namespace Amount

variable (a : Amount) {t : Text}

/-- What is behind the digits does not begin with a digit. -/
theorem head_behind : ∀ c ∈ (a.decimals ++ (a.space ++ a.name)).head?, c.isDigit = false := by
  obtain ⟨hhead, -⟩ := behind_number a.spaces (beginsWithUpper_of_unit a.named)
  exact head_decimals a.decimal fun c hc => (hhead c hc).1

/-- The reader of whole numbers takes the digits, unless a zero in front of them is superfluous. -/
theorem wholeAt_text {digits rest : Text} : wholeAt? a.text = some (digits, rest) ↔
    Whole a.whole ∧ digits = a.whole ∧ rest = a.decimals ++ (a.space ++ a.name) := by
  obtain ⟨htake, hdrop⟩ := Numeral.takeWhile_digits a.digits _ a.head_behind
  constructor
  · intro h
    obtain ⟨hwhole, hrest, htext⟩ := wholeAt_iff.mp h
    obtain ⟨htake', hdrop'⟩ := Numeral.takeWhile_digits hwhole.digits rest hrest
    rw [← htext, text] at htake' hdrop'
    obtain rfl : digits = a.whole := htake'.symm.trans htake
    exact ⟨hwhole, rfl, hdrop'.symm.trans hdrop⟩
  · rintro ⟨hwhole, rfl, rfl⟩
    exact wholeAt_iff.mpr ⟨hwhole, a.head_behind, rfl⟩

/-- Where a zero in front is superfluous, nothing is found. -/
theorem withUnit_text_of_not_whole (h : ¬Whole a.whole) : withUnit? a.text = none := by
  have hnone : wholeAt? a.text = none :=
    Option.eq_none_iff_forall_ne_some.mpr fun _ hat => h (a.wholeAt_text.mp hat).1
  rw [withUnit?, scaled?, bytes?, hnone]
  rfl

/-- Else the number and the unit are found, unless it is a number of bytes with decimals. -/
theorem withUnit_text (h : Whole a.whole) : withUnit? a.text =
    if a.unit = .byte ∧ a.decimals ≠ [] then none else some (a.whole ++ a.decimals, a.unit) := by
  have hat := a.wholeAt_text.mpr ⟨h, rfl, rfl⟩
  obtain ⟨hhead, hdrop⟩ := behind_number a.spaces (beginsWithUpper_of_unit a.named)
  have hscaled : scaled? a.text =
      (SizeUnit.multiples.lookup a.name).map fun unit => (a.whole ++ a.decimals, unit) := by
    simp only [scaled?, hat, decimalsAt_append a.decimal hhead, hdrop]
    cases SizeUnit.multiples.lookup a.name <;> rfl
  obtain ⟨hname, hunit⟩ | ⟨hlookup, hunit⟩ := unit_cases a.named
  · have hmultiple : SizeUnit.multiples.lookup a.name = none := by
      rw [hname]
      rfl
    simp only [withUnit?, hscaled, hmultiple, bytes?, hat, Option.map_none]
    by_cases hdecimals : a.decimals = []
    · rw [hdecimals, List.nil_append, hdrop, if_pos hname, if_neg fun h => h.2 rfl, List.append_nil, hunit]
      rfl
    · have hmark : (a.decimals ++ (a.space ++ a.name)).dropWhile CodePoint.isAsciiSpace ≠ ("B" : Text) := by
        obtain ⟨c, rest, hshape, hc⟩ := a.decimal.exists_mark hdecimals
        rw [hshape]
        intro hunit
        obtain rfl | rfl := hc <;> cases hunit
      rw [if_neg hmark, if_pos ⟨hunit, hdecimals⟩]
      rfl
  · rw [withUnit?, hscaled, hlookup, if_neg fun h => hunit h.1]
    rfl

/-- An amount is more than digits. -/
theorem not_whole_text : ¬Whole a.text := by
  intro h
  obtain ⟨letter, letters, hname, hletter⟩ := beginsWithUpper_of_unit a.named
  have hdigit : letter.isDigit = true := h.digits letter (by simp [text, hname])
  simp only [CodePoint.isAsciiUpper, CodePoint.isDigit, Bool.and_eq_true, decide_eq_true_eq] at hletter hdigit
  omega

/-- An amount of which no number and unit are found is not read. -/
theorem parse_of_withUnit_none (ht : t.strip = a.text) (h : withUnit? a.text = none) :
    parse t = .error (.unreadable t.strip) := by
  have hwhole : whole? a.text = none :=
    Option.eq_none_iff_forall_ne_some.mpr fun _ h => a.not_whole_text ((whole_iff.mp h).2 ▸ (whole_iff.mp h).1)
  simp only [parse, ht, h, hwhole]

/-- An amount is read as the floating-point number next to its number, multiplied by the bytes of its unit and cut
off. -/
theorem parse_iff (ht : t.strip = a.text) : parse t = .ok r ↔ Whole a.whole ∧ (a.unit = .byte → a.decimals = []) ∧
    a.units * a.unit.bytes ≤ maxSize * one ∧ r = a.units * a.unit.bytes / one := by
  by_cases hwhole : Whole a.whole
  · by_cases hbyte : a.unit = .byte ∧ a.decimals ≠ []
    · rw [a.parse_of_withUnit_none ht (by rw [a.withUnit_text hwhole, if_pos hbyte])]
      exact ⟨nofun, fun h => absurd (h.2.1 hbyte.1) hbyte.2⟩
    · have hnumber : Size.number (a.whole ++ a.decimals) =
          Binary64.round false (a.mantissa * one) (10 ^ a.places) := by
        rw [number_eq_decimal a.digits a.nonempty a.decimal]
        exact Numeral.decimal_eq_round (List.forall_mem_append.mpr ⟨a.digits, a.decimal.digits_tail⟩)
      have hden : 0 < 10 ^ a.places := Nat.pow_pos (by decide)
      simp only [parse, ht, a.withUnit_text hwhole, if_neg hbyte]
      rw [hnumber, ofFloat_round_iff hden]
      simp only [not_and, not_not] at hbyte
      exact ⟨fun h => ⟨hwhole, hbyte, h⟩, fun h => h.2.2⟩
  · rw [a.parse_of_withUnit_none ht (a.withUnit_text_of_not_whole hwhole)]
    exact ⟨nofun, fun h => absurd h.1 hwhole⟩

/-! ### Bounds -/

theorem one_eq (unit : SizeUnit) : ∃ k, one = unit.bytes * 2 ^ k := by
  cases unit with
  | byte => exact ⟨1074, by decide +kernel⟩
  | kilo => exact ⟨1064, by decide +kernel⟩
  | mega => exact ⟨1054, by decide +kernel⟩
  | giga => exact ⟨1044, by decide +kernel⟩
  | tera => exact ⟨1034, by decide +kernel⟩

/-- What a whole number of bytes is in units has a number of its own, so that rounding does not pass it. -/
theorem le_bytes {n : Nat} (hn : n ≤ 2 ^ 53) (h : n * 10 ^ a.places ≤ a.mantissa * a.unit.bytes) :
    n ≤ a.units * a.unit.bytes / one := by
  obtain ⟨k, hk⟩ := one_eq a.unit
  have hle : n * 2 ^ k ≤ a.units := by
    refine Binary64.le_nearest (Nat.pow_pos (by decide)) ((Binary64.representable_of_le hn).mul_two_pow k) ?_
    calc n * 2 ^ k * 10 ^ a.places = n * 10 ^ a.places * 2 ^ k := Nat.mul_right_comm _ _ _
      _ ≤ a.mantissa * a.unit.bytes * 2 ^ k := Nat.mul_le_mul_right _ h
      _ = a.mantissa * one := by rw [hk, Nat.mul_assoc]
  rw [Nat.le_div_iff_mul_le Binary64.one_pos]
  calc n * one = n * 2 ^ k * a.unit.bytes := by rw [hk, Nat.mul_comm a.unit.bytes, Nat.mul_assoc]
    _ ≤ a.units * a.unit.bytes := Nat.mul_le_mul_right _ hle

theorem bytes_le {n : Nat} (hn : n ≤ 2 ^ 53) (h : a.mantissa * a.unit.bytes ≤ n * 10 ^ a.places) :
    a.units * a.unit.bytes / one ≤ n := by
  obtain ⟨k, hk⟩ := one_eq a.unit
  have hle : a.units ≤ n * 2 ^ k := by
    refine Binary64.nearest_le (Nat.pow_pos (by decide)) ((Binary64.representable_of_le hn).mul_two_pow k) ?_
    calc a.mantissa * one = a.mantissa * a.unit.bytes * 2 ^ k := by rw [hk, Nat.mul_assoc]
      _ ≤ n * 10 ^ a.places * 2 ^ k := Nat.mul_le_mul_right _ h
      _ = n * 2 ^ k * 10 ^ a.places := Nat.mul_right_comm _ _ _
  refine Nat.div_le_of_le_mul ?_
  calc a.units * a.unit.bytes ≤ n * 2 ^ k * a.unit.bytes := Nat.mul_le_mul_right _ hle
    _ = one * n := by rw [hk, Nat.mul_assoc, Nat.mul_comm n, Nat.mul_comm (2 ^ k)]

/-! ### The number as a quotient -/

theorem places_pos : (0 : ℚ) < 10 ^ a.places := by
  positivity

theorem number_eq : a.number = a.mantissa / 10 ^ a.places := by
  rw [number, mantissa, Numeral.value_append, ← places, Nat.cast_add, Nat.cast_mul, Nat.cast_pow, Nat.cast_ofNat,
    add_div, mul_div_cancel_right₀ _ a.places_pos.ne']

theorem bytes_eq : a.bytes = (a.mantissa * a.unit.bytes : Nat) / 10 ^ a.places := by
  rw [bytes, number_eq, Nat.cast_mul, div_mul_eq_mul_div]

theorem le_bytes_iff {n : Nat} : (n : ℚ) ≤ a.bytes ↔ n * 10 ^ a.places ≤ a.mantissa * a.unit.bytes := by
  rw [bytes_eq, le_div_iff₀ a.places_pos]
  norm_cast

theorem bytes_le_iff {n : Nat} : a.bytes ≤ n ↔ a.mantissa * a.unit.bytes ≤ n * 10 ^ a.places := by
  rw [bytes_eq, div_le_iff₀ a.places_pos]
  norm_cast

theorem bytes_nonneg : 0 ≤ a.bytes := by
  have hzero : ((0 : Nat) : ℚ) ≤ a.bytes := a.le_bytes_iff.mpr (by simp)
  simpa using hzero

theorem units_mono {a b : Amount} (h : a.number ≤ b.number) : a.units ≤ b.units := by
  have hcross : a.mantissa * 10 ^ b.places ≤ b.mantissa * 10 ^ a.places := by
    rw [number_eq, number_eq, div_le_div_iff₀ a.places_pos b.places_pos] at h
    exact_mod_cast h
  refine Binary64.nearest_mono (Nat.pow_pos (by decide)) (Nat.pow_pos (by decide)) ?_
  rw [Nat.mul_right_comm, Nat.mul_right_comm b.mantissa]
  exact Nat.mul_le_mul_right _ hcross

end Amount

/-- A decimal size of less than 2 to the power of 53 bytes is rounded to one of the whole numbers of bytes next to it,
which is the size itself if it is one, and decimal sizes of one unit are in the order of their numbers. -/
theorem decimal_rounded (a : Amount) {t : Text} {r : Nat} (ht : t.strip = a.text) (hr : parse t = .ok r) :
    (a.bytes < 2 ^ 53 → ⌊a.bytes⌋₊ ≤ r ∧ r ≤ ⌈a.bytes⌉₊ ∧ ∀ n : Nat, a.bytes = n → r = n) ∧
      ∀ (b : Amount) (t' : Text) (r' : Nat), t'.strip = b.text → parse t' = .ok r' → a.unit = b.unit →
        a.number ≤ b.number → r ≤ r' := by
  obtain ⟨-, -, -, rfl⟩ := (a.parse_iff ht).mp hr
  constructor
  · intro hless
    have hfloor {n : Nat} (hn : (n : ℚ) ≤ a.bytes) : n ≤ a.units * a.unit.bytes / one := by
      refine a.le_bytes ?_ (a.le_bytes_iff.mp hn)
      exact_mod_cast (hn.trans hless.le)
    have hceil {n : Nat} (hn : a.bytes ≤ n) (hle : n ≤ 2 ^ 53) : a.units * a.unit.bytes / one ≤ n :=
      a.bytes_le hle (a.bytes_le_iff.mp hn)
    refine ⟨hfloor (Nat.floor_le a.bytes_nonneg), hceil (Nat.le_ceil _) ?_, ?_⟩
    · refine Nat.ceil_le.mpr ?_
      exact_mod_cast hless.le
    · intro n hn
      refine Nat.le_antisymm (hceil hn.le ?_) (hfloor hn.ge)
      exact_mod_cast (hn ▸ hless).le
  · intro b t' r' ht' hr' hunit hnumber
    obtain ⟨-, -, -, rfl⟩ := (b.parse_iff ht').mp hr'
    rw [hunit]
    exact Nat.div_le_div_right (Nat.mul_le_mul_right _ (Amount.units_mono hnumber))

theorem decimal_rounded_tenths : ∃ a b : Amount, (Text.strip "0.3 KB" = a.text ∧ parse "0.3 KB" = .ok 307 ∧
      Text.strip "0,7 KB" = b.text ∧ parse "0,7 KB" = .ok 716 ∧ a.unit = b.unit ∧ a.number ≤ b.number ∧
      a.bytes < 2 ^ 53) ∧
    (⌊a.bytes⌋₊ ≤ 307 ∧ 307 ≤ ⌈a.bytes⌉₊ ∧ ∀ n : Nat, a.bytes = n → 307 = n) ∧ 307 ≤ 716 := by
  have hdigit {c : CodePoint} (hc : c.isDigit = true) : Digits [c] := List.forall_mem_singleton.mpr hc
  have hspace : Spaces [' '] := List.forall_mem_singleton.mpr rfl
  let a : Amount := ⟨"0", ".3", " ", "KB", .kilo, hdigit rfl, nofun, .mark (.inl rfl) (hdigit rfl) nofun, hspace, rfl⟩
  let b : Amount := ⟨"0", ",7", " ", "KB", .kilo, hdigit rfl, nofun, .mark (.inr rfl) (hdigit rfl) nofun, hspace, rfl⟩
  have hless : a.number ≤ b.number := by
    rw [a.number_eq, b.number_eq, show a.mantissa = 3 from rfl, show b.mantissa = 7 from rfl]
    norm_num [show a.places = 1 from rfl, show b.places = 1 from rfl]
  have hbytes : a.bytes < 2 ^ 53 := by
    rw [a.bytes_eq, show a.mantissa = 3 from rfl, show a.unit.bytes = 1024 from rfl, show a.places = 1 from rfl]
    norm_num
  have ha : parse "0.3 KB" = .ok 307 := by decide +kernel
  have hb : parse "0,7 KB" = .ok 716 := by decide +kernel
  exact ⟨a, b, ⟨rfl, ha, rfl, hb, rfl, hless, hbytes⟩, (decimal_rounded a rfl ha).1 hbytes,
    (decimal_rounded a rfl ha).2 b _ _ rfl hb rfl hless⟩

end FileSieve.Size
