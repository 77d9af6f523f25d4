import FileSieve.Proofs.Size.Rounding

/-!
# Whole numbers of a unit

A whole number of a unit (`Count`) can be written with the unit or as the number of its bytes alone. Without a unit it
is read as an integer; with one it is read as a floating-point number, which every size in range is that is a number of
multiples of the byte, but not every number of bytes. So the two are the same size exactly if the number has at most 53
binary digits with zeros behind them, or the unit is not the byte (`Count.parse_text_iff`).
-/

namespace FileSieve.Size

open Binary64 (nearest one Representable)
open Predicate (Spaces IsSymbolPoint)

/-- A whole number of a unit, with spaces and tabs between them. -/
structure Count where
  /-- The number. -/
  number : Nat
  /-- The spaces and tabs. -/
  space : Text
  /-- The name of the unit. -/
  name : Text
  /-- The unit. -/
  unit : SizeUnit
  /-- There is nothing else between the number and the name. -/
  blank : ∀ c ∈ space, c = ' ' ∨ c = '\t'
  /-- The name is one of the unit. -/
  named : SizeUnit.ofName? name = some unit

/-- In the name of a unit there is nothing that a reader of predicates takes for more than a part of a value. -/
theorem points_of_unit {name : Text} {unit : SizeUnit} (h : SizeUnit.ofName? name = some unit) :
    ∀ c ∈ name, ¬IsSymbolPoint c ∧ c ≠ '\n' ∧ c.isBlank = false := by
  have hall : ∀ entry ∈ SizeUnit.names,
      entry.1.all (fun c => decide (¬IsSymbolPoint c ∧ c ≠ '\n' ∧ c.isBlank = false)) = true := by
    decide
  obtain ⟨front, back, hsplit, -⟩ := List.lookup_eq_some_iff.mp h
  have hmem : (name, unit) ∈ SizeUnit.names := by simp [hsplit]
  exact fun c hc => of_decide_eq_true (List.all_eq_true.mp (hall _ hmem) c hc)

namespace Count

/-- The number and the unit in writing. -/
def text (c : Count) : Text :=
  Text.ofNat c.number ++ (c.space ++ c.name)

/-- The number of bytes. -/
def bytes (c : Count) : Nat :=
  c.number * c.unit.bytes

/-- What has a number of its own, if it is a number of bytes. -/
def IsExact (c : Count) : Prop :=
  c.unit = .byte → Representable c.number

variable (c : Count)

theorem spaces : Spaces c.space := by
  intro d hd
  obtain rfl | rfl := c.blank d hd <;> rfl

/-- A whole number of a unit is a decimal number of it. -/
def amount : Amount where
  whole := Text.ofNat c.number
  decimals := []
  space := c.space
  name := c.name
  unit := c.unit
  digits := Text.digits_ofNat _
  nonempty := Text.ofNat_ne_nil _
  decimal := .nothing
  spaces := c.spaces
  named := c.named

/-- There is no white space around it. -/
theorem strip_text : c.text.strip = c.text := by
  obtain ⟨letter, letters, hname, -⟩ := beginsWithUpper_of_unit c.named
  have hne : c.space ++ c.name ≠ [] := by simp [hname]
  refine trim_eq_self (fun d hd => ?_) fun d hd => ?_
  · rw [text, List.head?_append_of_ne_nil _ (Text.ofNat_ne_nil _)] at hd
    exact not_isBlank_of_isDigit (Text.digits_ofNat _ d (List.mem_of_mem_head? hd))
  · rw [text, List.getLast?_append_of_ne_nil _ hne, List.getLast?_append_of_ne_nil _ (by simp [hname])] at hd
    exact (points_of_unit c.named d (List.mem_of_getLast? hd)).2.2

/-- The number is rounded, multiplied by the bytes of the unit and cut off. -/
theorem parse_text {r : Nat} : parse c.text = .ok r ↔
    nearest (c.number * one) 1 * c.unit.bytes ≤ maxSize * one ∧
      r = nearest (c.number * one) 1 * c.unit.bytes / one := by
  have hunits : c.amount.units = nearest (c.number * one) 1 := by
    have hvalue : Numeral.value (Text.ofNat c.number ++ []) = c.number := by rw [List.append_nil, Text.value_ofNat]
    simp only [Amount.units, Amount.mantissa, Amount.places, amount, List.tail_nil, hvalue, List.length_nil, Nat.pow_zero]
  rw [c.amount.parse_iff c.strip_text, hunits]
  exact ⟨fun h => h.2.2, fun h => ⟨whole_ofNat c.number, fun _ => rfl, h⟩⟩

/-- A number of multiples of the byte has a number of its own, if it is in range. -/
theorem representable_of_multiple (h : c.bytes ≤ maxSize) (hunit : c.unit ≠ .byte) : Representable c.number := by
  have hbytes : 1024 ≤ c.unit.bytes := by
    cases hcases : c.unit with
    | byte => exact absurd hcases hunit
    | _ => decide
  refine Binary64.representable_of_le ?_
  have hle : c.number * 1024 ≤ maxSize := (Nat.mul_le_mul_left _ hbytes).trans h
  have hmax : maxSize < 2 ^ 53 * 1024 := by decide
  omega

/-- A number of a unit is read as the number of its bytes exactly if it is a number of multiples of the byte or has a
number of its own. -/
theorem parse_text_iff (h : c.bytes ≤ maxSize) : parse c.text = .ok c.bytes ↔ c.IsExact := by
  rw [parse_text]
  constructor
  · rintro ⟨-, hkept⟩ hunit
    have hbytes : c.unit.bytes = 1 := by
      rw [hunit]
      rfl
    rw [bytes, hbytes, Nat.mul_one, Nat.mul_one] at hkept
    exact Binary64.nearest_div_one_eq_iff.mp hkept.symm
  · intro hexact
    have hnumber : Representable c.number := by
      by_cases hunit : c.unit = .byte
      · exact hexact hunit
      · exact c.representable_of_multiple h hunit
    rw [Binary64.nearest_integer hnumber, Nat.mul_right_comm]
    exact ⟨Nat.mul_le_mul_right _ h, (Nat.mul_div_cancel _ Binary64.one_pos).symm⟩

end Count

end FileSieve.Size
