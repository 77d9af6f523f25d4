import FileSieve.Proofs.Number.Reading
import FileSieve.Proofs.Predicate.Grammar
import FileSieve.Size.Reading

/-!
# The grammar of sizes

A size is a whole number, a whole number with the unit of bytes, or a whole number, perhaps with decimals, with a
multiple of that unit; white space may stand in front of the unit (`IsSize`). The three readers of the program find
exactly these forms: each of them is the inverse of putting the parts of its form together (`wholeAt_iff`,
`decimalsAt_append`), so a text of one form cannot be taken for another one.
-/

namespace FileSieve.Size

open Predicate (Spaces)

/-! ### Forms -/

/-- The digits of a whole number without a superfluous zero in front. -/
structure Whole (t : Text) : Prop where
  /-- Digits alone. -/
  digits : Digits t
  /-- At least one. -/
  nonempty : t ≠ []
  /-- A zero in front is the only one. -/
  plain : t.head? = some ('0' : CodePoint) → t.length = 1

/-- A point or comma with digits behind it, or nothing. -/
inductive Decimals : Text → Prop
  /-- Nothing. -/
  | nothing : Decimals []
  /-- A point or comma with digits behind it. -/
  | mark {c : CodePoint} {digits : Text} : c = '.' ∨ c = ',' → Digits digits → digits ≠ [] → Decimals (c :: digits)

/-- A text that is a size. -/
inductive IsSize : Text → Prop
  /-- A number of bytes. -/
  | whole {number : Text} : Whole number → IsSize number
  /-- A number of bytes with the unit. -/
  | bytes {number ws : Text} : Whole number → Spaces ws → IsSize (number ++ ws ++ "B")
  /-- A number of multiples of the unit. -/
  | multiple {number decimals ws name : Text} : Whole number → Decimals decimals → Spaces ws →
    name ∈ (["KB", "KiB", "MB", "MiB", "GB", "GiB", "TB", "TiB"] : List Text) →
    IsSize (number ++ decimals ++ ws ++ name)

/-! ### The whole number in front -/

variable {t number rest : Text}

theorem whole_singleton {d : CodePoint} (hd : d.isDigit = true) : Whole [d] where
  digits := List.forall_mem_singleton.mpr hd
  nonempty := List.cons_ne_nil _ _
  plain _ := rfl

theorem whole_cons_cons {d e : CodePoint} (h : Digits (d :: e :: rest)) : Whole (d :: e :: rest) ↔ d ≠ '0' where
  mp hwhole hzero := by
    have hlength := hwhole.plain (congrArg some hzero)
    simp at hlength
  mpr hne := ⟨h, List.cons_ne_nil _ _, fun hzero => absurd (Option.some.inj hzero) hne⟩

/-- A number is written as a whole one. -/
theorem whole_ofNat (n : Nat) : Whole (Text.ofNat n) where
  digits := Text.digits_ofNat n
  nonempty := Text.ofNat_ne_nil n
  plain hzero := by
    have hn : n = 0 := by_contra fun hne => Text.head_ofNat hne hzero
    rw [hn, Text.ofNat_of_lt (by decide), List.length_singleton]

/-- The reader of whole numbers takes all digits of one, and nothing else. -/
theorem wholeAt_iff : wholeAt? t = some (number, rest) ↔
    Whole number ∧ (∀ c ∈ rest.head?, c.isDigit = false) ∧ t = number ++ rest := by
  constructor
  · intro h
    have hdigits : Digits (t.takeWhile CodePoint.isDigit) := fun c hc => List.mem_takeWhile_imp hc
    have hstop : ∀ c ∈ (t.dropWhile CodePoint.isDigit).head?, c.isDigit = false := head_dropWhile
    have hsplit := (List.takeWhile_append_dropWhile (p := CodePoint.isDigit) (l := t)).symm
    rw [wholeAt?] at h
    obtain ⟨hplain, hparts⟩ := Option.ite_none_right_eq_some.mp h
    obtain ⟨rfl, rfl⟩ := Prod.mk.inj (Option.some.inj hparts)
    refine ⟨?_, hstop, hsplit⟩
    cases hcons : t.takeWhile CodePoint.isDigit with
    | nil => simp [hcons] at hplain
    | cons d digits =>
      rw [hcons] at hdigits hplain
      cases digits with
      | nil => exact whole_singleton (hdigits d List.mem_cons_self)
      | cons e digits => exact (whole_cons_cons hdigits).mpr (by simpa using hplain)
  · rintro ⟨hwhole, hrest, rfl⟩
    obtain ⟨htake, hdrop⟩ := Numeral.takeWhile_digits hwhole.digits rest hrest
    rw [wholeAt?, htake, hdrop]
    refine if_pos ?_
    match number, hwhole with
    | [], hwhole => exact absurd rfl hwhole.nonempty
    | [d], _ => rfl
    | d :: e :: digits, hwhole => simpa using (whole_cons_cons hwhole.digits).mp hwhole

/-! ### Decimals -/

variable {decimals : Text}

/-- In front of anything that is neither a digit nor a mark, decimals are taken whole. -/
theorem decimalsAt_append (h : Decimals decimals)
    (hrest : ∀ c ∈ rest.head?, c.isDigit = false ∧ c ≠ '.' ∧ c ≠ ',') :
    decimalsAt (decimals ++ rest) = (decimals, rest) := by
  cases h with
  | nothing =>
    cases rest with
    | nil => rfl
    | cons c rest =>
      obtain ⟨-, hpoint, hcomma⟩ := hrest c rfl
      simp [decimalsAt, hpoint, hcomma]
  | @mark c digits hmark hdigits hne =>
    obtain ⟨htake, hdrop⟩ := Numeral.takeWhile_digits hdigits rest fun c hc => (hrest c hc).1
    simp [decimalsAt, htake, hdrop, hmark, hne]

theorem Decimals.exists_mark (h : Decimals decimals) (hne : decimals ≠ []) :
    ∃ c rest, decimals = c :: rest ∧ (c = '.' ∨ c = ',') := by
  cases h with
  | nothing => exact absurd rfl hne
  | mark hmark _ _ => exact ⟨_, _, rfl, hmark⟩

/-- Behind the mark there are digits. -/
theorem Decimals.digits_tail (h : Decimals decimals) : Digits decimals.tail := by
  cases h with
  | nothing => exact List.forall_mem_nil _
  | mark _ hdigits _ => exact hdigits

/-- Decimals do not begin with a digit. -/
theorem head_decimals (h : Decimals decimals) (hrest : ∀ c ∈ rest.head?, c.isDigit = false) :
    ∀ c ∈ (decimals ++ rest).head?, c.isDigit = false := by
  cases h with
  | nothing => exact hrest
  | mark hmark _ _ =>
    rintro c ⟨⟩
    obtain rfl | rfl := hmark <;> rfl

/-- What is taken is decimals, and nothing is lost. -/
theorem decimalsAt_parts (t : Text) : Decimals (decimalsAt t).1 ∧ t = (decimalsAt t).1 ++ (decimalsAt t).2 := by
  cases t with
  | nil => exact ⟨.nothing, rfl⟩
  | cons c t =>
    rw [decimalsAt]
    split_ifs with hmark
    · simp only [Bool.and_eq_true, Bool.or_eq_true, decide_eq_true_eq, Bool.not_eq_true',
        List.isEmpty_eq_false_iff] at hmark
      refine ⟨.mark hmark.1 (fun d hd => List.mem_takeWhile_imp hd) hmark.2, ?_⟩
      rw [List.cons_append, List.takeWhile_append_dropWhile]
    · exact ⟨.nothing, rfl⟩

/-! ### Units -/

variable {ws name : Text} {unit : SizeUnit}

/-- A text that begins with an upper-case letter. -/
def BeginsWithUpper (t : Text) : Prop :=
  ∃ c letters, t = c :: letters ∧ c.isAsciiUpper = true

/-- White space and a name are taken apart, and neither can be taken for digits or decimals. -/
theorem behind_number (hws : Spaces ws) (hname : BeginsWithUpper name) :
    (∀ c ∈ (ws ++ name).head?, c.isDigit = false ∧ c ≠ '.' ∧ c ≠ ',') ∧
      (ws ++ name).dropWhile CodePoint.isAsciiSpace = name := by
  have hother {c : CodePoint} (hc : c.isAsciiSpace = true ∨ c.isAsciiUpper = true) :
      c.isDigit = false ∧ c ≠ '.' ∧ c ≠ ',' := by
    have hval : c.val < 0x2C ∨ 0x3A ≤ c.val := by
      simp only [CodePoint.isAsciiSpace, CodePoint.isAsciiUpper, Bool.or_eq_true, beq_iff_eq, Bool.and_eq_true,
        decide_eq_true_eq] at hc
      omega
    refine ⟨?_, ?_, ?_⟩
    · simp only [CodePoint.isDigit, Bool.and_eq_false_imp, decide_eq_true_eq, decide_eq_false_iff_not]
      omega
    · rintro rfl
      exact absurd hval (by decide)
    · rintro rfl
      exact absurd hval (by decide)
  obtain ⟨letter, letters, rfl, hletter⟩ := hname
  constructor
  · cases ws with
    | nil => exact fun c hc => hother (.inr (Option.some.inj hc ▸ hletter))
    | cons space ws => exact fun c hc => hother (.inl (Option.some.inj hc ▸ hws space List.mem_cons_self))
  · have hspace : letter.isAsciiSpace = false := by
      simp only [CodePoint.isAsciiUpper, Bool.and_eq_true, decide_eq_true_eq] at hletter
      simp [CodePoint.isAsciiSpace]
      omega
    rw [List.dropWhile_append_of_pos hws, List.dropWhile_cons_of_neg (by simp [hspace])]

/-- The names of multiples are those of the grammar. -/
theorem exists_unit_iff : (∃ unit, SizeUnit.multiples.lookup name = some unit) ↔
    name ∈ (["KB", "KiB", "MB", "MiB", "GB", "GiB", "TB", "TiB"] : List Text) := by
  constructor
  · rintro ⟨unit, h⟩
    obtain ⟨front, back, hsplit, -⟩ := List.lookup_eq_some_iff.mp h
    have hmem : (name, unit) ∈ SizeUnit.multiples := by simp [hsplit]
    have hname : name ∈ SizeUnit.multiples.map Prod.fst := List.mem_map.mpr ⟨_, hmem, rfl⟩
    exact hname
  · intro h
    simp only [List.mem_cons, List.not_mem_nil, or_false] at h
    obtain rfl | rfl | rfl | rfl | rfl | rfl | rfl | rfl := h <;> exact ⟨_, rfl⟩

theorem beginsWithUpper_of_lookup (h : SizeUnit.multiples.lookup name = some unit) : BeginsWithUpper name := by
  have hmem := exists_unit_iff.mp ⟨unit, h⟩
  simp only [List.mem_cons, List.not_mem_nil, or_false] at hmem
  obtain rfl | rfl | rfl | rfl | rfl | rfl | rfl | rfl := hmem <;> exact ⟨_, _, rfl, rfl⟩

/-! ### The forms that are found -/

/-- A number with a multiple of the unit is found in exactly the texts of this form. -/
theorem scaled_iff {text : Text} : scaled? t = some (text, unit) ↔ ∃ number decimals ws name,
    Whole number ∧ Decimals decimals ∧ Spaces ws ∧ SizeUnit.multiples.lookup name = some unit ∧
      t = number ++ decimals ++ ws ++ name ∧ text = number ++ decimals := by
  constructor
  · intro h
    rw [scaled?] at h
    split at h
    · cases h
    · rename_i number rest hwhole
      obtain ⟨hnumber, -, rfl⟩ := wholeAt_iff.mp hwhole
      obtain ⟨hdecimals, hrest⟩ := decimalsAt_parts rest
      simp only at h
      split at h
      · rename_i unit' hunit
        obtain ⟨rfl, rfl⟩ := Prod.mk.inj (Option.some.inj h)
        refine ⟨number, _, (decimalsAt rest).2.takeWhile CodePoint.isAsciiSpace, _, hnumber, hdecimals,
          fun c hc => List.mem_takeWhile_imp hc, hunit, ?_, rfl⟩
        rw [List.append_assoc, List.takeWhile_append_dropWhile, List.append_assoc, ← hrest]
      · cases h
  · rintro ⟨number, decimals, ws, name, hnumber, hdecimals, hws, hunit, rfl, rfl⟩
    obtain ⟨hhead, hdrop⟩ := behind_number hws (beginsWithUpper_of_lookup hunit)
    have hwhole : wholeAt? (number ++ (decimals ++ (ws ++ name))) = some (number, decimals ++ (ws ++ name)) :=
      wholeAt_iff.mpr ⟨hnumber, head_decimals hdecimals fun c hc => (hhead c hc).1, rfl⟩
    rw [List.append_assoc, List.append_assoc, scaled?, hwhole]
    simp only [decimalsAt_append hdecimals hhead, hdrop, hunit]

/-- And a number with the unit of bytes in those of its form. -/
theorem bytes_iff : bytes? t = some number ↔ ∃ ws, Whole number ∧ Spaces ws ∧ t = number ++ ws ++ "B" := by
  constructor
  · intro h
    rw [bytes?] at h
    split at h
    · cases h
    · rename_i number' rest hwhole
      obtain ⟨hunit, hsome⟩ := Option.ite_none_right_eq_some.mp h
      obtain rfl := Option.some.inj hsome
      obtain ⟨hnumber, -, rfl⟩ := wholeAt_iff.mp hwhole
      refine ⟨rest.takeWhile CodePoint.isAsciiSpace, hnumber, fun c hc => List.mem_takeWhile_imp hc, ?_⟩
      rw [← hunit, List.append_assoc, List.takeWhile_append_dropWhile]
  · rintro ⟨ws, hnumber, hws, rfl⟩
    have hunit : BeginsWithUpper "B" := ⟨_, _, rfl, rfl⟩
    obtain ⟨hhead, hdrop⟩ := behind_number hws hunit
    have hwhole := wholeAt_iff.mpr ⟨hnumber, fun c hc => (hhead c hc).1, rfl⟩
    rw [List.append_assoc, bytes?, hwhole]
    exact if_pos hdrop

/-- And a whole number alone in itself. -/
theorem whole_iff : whole? t = some number ↔ Whole number ∧ t = number := by
  constructor
  · intro h
    rw [whole?] at h
    split at h
    · rename_i whole hwhole
      obtain rfl := Option.some.inj h
      obtain ⟨hnumber, -, hsplit⟩ := wholeAt_iff.mp hwhole
      exact ⟨hnumber, hsplit.trans (List.append_nil _)⟩
    · cases h
  · rintro ⟨hnumber, rfl⟩
    rw [whole?, wholeAt_iff.mpr ⟨hnumber, by simp, (List.append_nil _).symm⟩]

end FileSieve.Size
