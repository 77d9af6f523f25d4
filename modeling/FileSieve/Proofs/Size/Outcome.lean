import FileSieve.Filter.Failure
import FileSieve.Proofs.Size.Grammar
import FileSieve.Proofs.Size.Range

/-!
# What becomes of a text that is read as a size

A text that is no size is refused with the code of texts that cannot be read. A text that is one gives a size, or its
number is out of range, with one exception: a whole number without a unit is read as an integer, which may have at most
`maxDigits` digits, and a longer one fails without a code of its own (`parse_outcome`). With the unit of bytes behind
it the same number is out of range, as it is read as a floating-point number.
-/

namespace FileSieve.Size

open Predicate (Spaces)

variable {t number decimals : Text} {unit : SizeUnit}

/-! ### Numbers with a unit -/

theorem replacePoint_digits (h : Digits t) : Text.replacePoint t ',' "." = t := by
  have hpoint : ∀ c ∈ t, (if c = ',' then (Text.ofString ".") else [c]) = [c] := by
    refine fun c hc => if_neg ?_
    rintro rfl
    exact absurd (h _ hc) (by decide)
  rw [Text.replacePoint, List.flatMap_congr hpoint, List.flatMap_singleton']

/-- A number with a unit is read as the decimal that it is. -/
theorem number_eq_decimal (hnumber : Digits number) (hne : number ≠ []) (hdecimals : Decimals decimals) :
    Size.number (number ++ decimals) = Numeral.decimal number decimals.tail := by
  cases hdecimals with
  | nothing =>
    rw [List.append_nil, Size.number, replacePoint_digits hnumber, toBinary64_whole hnumber hne]
    rfl
  | @mark c digits hmark hdigits _ =>
    have hpoint : Text.replacePoint (number ++ c :: digits) ',' "." = number ++ ('.' : CodePoint) :: digits := by
      have hself := replacePoint_digits hdigits
      rw [Text.replacePoint, List.flatMap_append, List.flatMap_cons, ← Text.replacePoint, ← Text.replacePoint,
        replacePoint_digits hnumber, hself]
      obtain rfl | rfl := hmark <;> rfl
    rw [Size.number, hpoint, toBinary64_point hnumber hne hdigits]
    rfl

/-- It is not less than zero. -/
theorem nonnegative_number (hnumber : Whole number) (hdecimals : Decimals decimals) :
    (Size.number (number ++ decimals)).Nonnegative := by
  rw [number_eq_decimal hnumber.digits hnumber.nonempty hdecimals]
  exact Numeral.nonnegative_scaled _ _ _

/-- What has a unit is a size, and its number is read as one. -/
theorem withUnit_parts {text : Text} (h : withUnit? t = some (text, unit)) :
    IsSize t ∧ ∃ number decimals, Whole number ∧ Decimals decimals ∧ text = number ++ decimals := by
  rw [withUnit?] at h
  split at h
  · rename_i found hscaled
    obtain rfl := Option.some.inj h
    obtain ⟨number, decimals, ws, name, hnumber, hdecimals, hws, hunit, rfl, rfl⟩ := scaled_iff.mp hscaled
    exact ⟨.multiple hnumber hdecimals hws (exists_unit_iff.mp ⟨unit, hunit⟩), number, decimals, hnumber, hdecimals, rfl⟩
  · obtain ⟨number, hbytes, heq⟩ := Option.map_eq_some_iff.mp h
    obtain ⟨rfl, -⟩ := Prod.mk.inj heq
    obtain ⟨ws, hnumber, hws, rfl⟩ := bytes_iff.mp hbytes
    exact ⟨.bytes hnumber hws, number, [], hnumber, .nothing, (List.append_nil _).symm⟩

/-- A size that has no unit is a whole number. -/
theorem whole_of_isSize (h : IsSize t) (hunit : withUnit? t = none) : Whole t := by
  have hscaled : scaled? t = none := by
    cases hscaled : scaled? t with
    | none => rfl
    | some found => simp [withUnit?, hscaled] at hunit
  have hbytes : bytes? t = none := by
    simpa [withUnit?, hscaled] using hunit
  cases h with
  | whole hwhole => exact hwhole
  | bytes hnumber hws =>
    rw [bytes_iff.mpr ⟨_, hnumber, hws, rfl⟩] at hbytes
    cases hbytes
  | multiple hnumber hdecimals hws hname =>
    obtain ⟨unit, hunit⟩ := exists_unit_iff.mpr hname
    rw [scaled_iff.mpr ⟨_, _, _, _, hnumber, hdecimals, hws, hunit, rfl, rfl⟩] at hscaled
    cases hscaled

/-- A whole number has no unit. -/
theorem withUnit_of_whole (h : Whole t) : withUnit? t = none := by
  have hwhole := wholeAt_iff.mpr ⟨h, by simp, (List.append_nil t).symm⟩
  have hscaled : scaled? t = none := by
    rw [scaled?, hwhole]
    rfl
  rw [withUnit?, hscaled, bytes?, hwhole]
  rfl

/-! ### Whole numbers -/

theorem strip_of_digits (h : Digits t) : t.strip = t :=
  trim_eq_self (fun c hc => not_isBlank_of_isDigit (h c (List.mem_of_mem_head? hc))) fun c hc =>
    not_isBlank_of_isDigit (h c (List.mem_of_getLast? hc))

/-- A whole number is read as an integer, unless it has too many digits. -/
theorem parse_of_whole (h : Whole t.strip) : parse t =
    if t.strip.length > maxDigits then .error (.misuse (.tooManyDigits t.strip.length))
    else inRange (Numeral.value t.strip) := by
  simp only [parse, withUnit_of_whole h, whole_iff.mpr ⟨h, rfl⟩]

/-- A size in decimal digits is read as that size. -/
theorem parse_ofNat {n : Nat} (h : n ≤ maxSize) : parse (Text.ofNat n) = .ok n := by
  have hstrip := strip_of_digits (Text.digits_ofNat n)
  have hwhole : Whole (Text.ofNat n).strip := hstrip.symm ▸ whole_ofNat n
  have hlength : ¬(Text.ofNat n).length > maxDigits := by
    have hlt : n < Nat.pow 10 19 := lt_of_le_of_lt h (maxSize_lt (Nat.le_refl 19))
    exact Nat.not_lt.mpr ((Text.length_ofNat_le (by decide) hlt).trans (by decide))
  rw [parse_of_whole hwhole, hstrip, if_neg hlength, Text.value_ofNat, inRange_of_le h]

/-! ### The outcome -/

/-- A text is no size and refused as one that cannot be read, or it is a size and gives a size or a number out of range,
or it is a whole number of too many digits, without a unit, and has no outcome of its own. -/
theorem parse_outcome (t : Text) :
    (¬IsSize t.strip ∧ parse t = .error (.unreadable t.strip) ∧
      (Failure.size (.unreadable t.strip)).code = some .parseError) ∨
    (IsSize t.strip ∧ ¬(Whole t.strip ∧ maxDigits < t.strip.length) ∧ Settled (parse t)) ∨
    (Whole t.strip ∧ maxDigits < t.strip.length ∧ parse t = .error (.misuse (.tooManyDigits t.strip.length))) := by
  by_cases hwhole : Whole t.strip
  · by_cases hlong : t.strip.length > maxDigits
    · rw [parse_of_whole hwhole, if_pos hlong]
      exact .inr (.inr ⟨hwhole, hlong, rfl⟩)
    · rw [parse_of_whole hwhole, if_neg hlong]
      exact .inr (.inl ⟨.whole hwhole, fun h => hlong h.2,
        settled_inRange (not_tooLong_value hwhole.digits (Nat.le_of_not_lt hlong))⟩)
  · cases hunit : withUnit? t.strip with
    | some found =>
      obtain ⟨text, unit⟩ := found
      obtain ⟨hsize, number, decimals, hnumber, hdecimals, rfl⟩ := withUnit_parts hunit
      refine .inr (.inl ⟨hsize, fun h => hwhole h.1, ?_⟩)
      simp only [parse, hunit]
      exact settled_ofFloat (nonnegative_number hnumber hdecimals) unit
    | none =>
      have hnone : whole? t.strip = none :=
        Option.eq_none_iff_forall_ne_some.mpr fun digits h => hwhole ((whole_iff.mp h).2 ▸ (whole_iff.mp h).1)
      refine .inl ⟨fun hsize => hwhole (whole_of_isSize hsize hunit), ?_, rfl⟩
      simp only [parse, hunit, hnone]

/-- One digit more than an integer may have: a size that gives no size and is not out of range either. -/
theorem long_size_unsettled : IsSize (Text.strip (List.replicate (maxDigits + 1) '1')) ∧
    ¬Settled (parse (List.replicate (maxDigits + 1) '1')) := by
  have hdigits : Digits (List.replicate (maxDigits + 1) '1') := fun c hc => by
    rw [List.eq_of_mem_replicate hc]
    decide
  have hwhole : Whole (Text.strip (List.replicate (maxDigits + 1) '1')) := by
    rw [strip_of_digits hdigits]
    exact ⟨hdigits, List.cons_ne_nil _ _, fun hzero => absurd (Option.some.inj hzero) (by decide)⟩
  refine ⟨.whole hwhole, ?_⟩
  rw [parse_of_whole hwhole, strip_of_digits hdigits, if_pos (by simp)]
  exact nofun

end FileSieve.Size
