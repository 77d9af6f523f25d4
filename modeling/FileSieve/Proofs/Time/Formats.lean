import FileSieve.Proofs.Text.Trim
import FileSieve.Proofs.Time.Valid

/-!
# One reading of a date

A text is read as a date and time by ISO 8601 and by the formats, one after the other, and at most one of these readings
accepts it, so that they may be tried in any order (`one_reading`).

Formats are told apart by what of them stands in every text that has them: as many points and colons as in the format
(`count_of_fields`), and a year or a shorter field in front of the first mark (`leadingDigits_of_read`). A date of ISO
8601 begins with a year as well, and there is no slash behind it (`leadingDigits_of_iso`).
-/

namespace FileSieve

/-- The number of digits of any script that a text begins with. -/
def leadingDigits (t : Text) : Nat :=
  (t.takeWhile CodePoint.isDecimal).length

theorem leadingDigits_append {digits : Text} (h : ∀ c ∈ digits, c.isDecimal = true) (rest : Text) :
    leadingDigits (digits ++ rest) = digits.length + leadingDigits rest := by
  rw [leadingDigits, List.takeWhile_append_of_pos h, List.length_append, leadingDigits]

theorem isDecimal_of_isDigit {c : CodePoint} (h : c.isDigit = true) : c.isDecimal = true :=
  CodePoint.forall_digit (by decide) h

/-! ### Fields -/

namespace Field

variable {f : Field} {a b : CodePoint} {n : Nat} {t rest : Text}

theorem isDecimal_of_digit (h : digit? a = some n) : a.isDecimal = true :=
  Option.isSome_of_eq_some h

theorem isDecimal_of_ofOne (h : f.ofOne? a = some n) : a.isDecimal = true := by
  have hdigit (h : (if a.isDigit && a.digitValue ≠ 0 then some a.digitValue else none) = some n) :
      a.isDecimal = true := by
    split_ifs at h with ha
    exact isDecimal_of_isDigit (Bool.and_eq_true_iff.mp ha).1
  cases f with
  | day => exact hdigit h
  | month => exact hdigit h
  | _ => exact isDecimal_of_digit h

theorem isDecimal_of_ofTwo (h : f.ofTwo? a b = some n) : a.isDecimal = true ∧ b.isDecimal = true := by
  obtain ⟨y, hy, h⟩ := Option.bind_eq_some_iff.mp h
  simp only at h
  split_ifs at h with hn
  simp only [Bool.and_eq_true] at hn
  exact ⟨isDecimal_of_isDigit hn.1.1.1, isDecimal_of_digit hy⟩

theorem exists_digits_of_year (h : yearAt? t = some (n, rest)) : ∃ digits, t = digits ++ rest ∧
    (∀ c ∈ digits, c.isDecimal = true) ∧ digits.length = 4 := by
  unfold yearAt? at h
  split at h
  · next a b c d rest' =>
    obtain ⟨_, ha, h⟩ := Option.bind_eq_some_iff.mp h
    obtain ⟨_, hb, h⟩ := Option.bind_eq_some_iff.mp h
    obtain ⟨_, hc, h⟩ := Option.bind_eq_some_iff.mp h
    obtain ⟨_, hd, h⟩ := Option.bind_eq_some_iff.mp h
    obtain ⟨-, rfl⟩ := Prod.mk.inj (Option.some.inj h)
    refine ⟨[a, b, c, d], rfl, ?_, rfl⟩
    simp [isDecimal_of_digit ha, isDecimal_of_digit hb, isDecimal_of_digit hc, isDecimal_of_digit hd]
  · simp at h

/-- A field is read off digits: four for a year, one or two for another one. -/
theorem exists_digits (h : f.read? t = some (n, rest)) : ∃ digits, t = digits ++ rest ∧
    (∀ c ∈ digits, c.isDecimal = true) ∧ if f = .year then digits.length = 4 else digits.length ≤ 2 := by
  have hone {a : CodePoint} {rest' : Text} (hf : f ≠ .year)
      (h : (f.ofOne? a).map (fun n => (n, rest')) = some (n, rest)) : ∃ digits, a :: rest' = digits ++ rest ∧
        (∀ c ∈ digits, c.isDecimal = true) ∧ if f = .year then digits.length = 4 else digits.length ≤ 2 := by
    obtain ⟨n', hn, heq⟩ := Option.map_eq_some_iff.mp h
    obtain ⟨-, rfl⟩ := Prod.mk.inj heq
    exact ⟨[a], rfl, List.forall_mem_singleton.mpr (isDecimal_of_ofOne hn), by simp [hf]⟩
  unfold read? at h
  split at h
  · exact exists_digits_of_year h
  · next a b rest' hf =>
    split at h
    · next n' hn =>
      obtain ⟨-, rfl⟩ := Prod.mk.inj (Option.some.inj h)
      obtain ⟨ha, hb⟩ := isDecimal_of_ofTwo hn
      refine ⟨[a, b], rfl, List.forall_mem_cons.mpr ⟨ha, List.forall_mem_singleton.mpr hb⟩, ?_⟩
      rw [if_neg hf]
      exact Nat.le_refl 2
    · exact hone hf h
  · next a hf => exact hone hf h
  · simp at h

end Field

/-! ### Formats -/

namespace Format

variable {format : Format} {t : Text} {fields : List (Field × Nat)} {c : CodePoint}

/-- What is neither a digit nor white space stands in a text as often as in its format. -/
theorem count_of_fields (hdecimal : c.isDecimal = false) (hblank : c.isBlank = false)
    (h : fields? format t = some fields) : t.count c = format.count (.literal c) := by
  have hskip {front : Text} (hfront : ∀ a ∈ front, a.isDecimal = true ∨ a.isBlank = true) (rest : Text) :
      (front ++ rest).count c = rest.count c := by
    have hnone : c ∉ front := by
      intro hc
      rcases hfront c hc with h | h
      · simp [hdecimal] at h
      · simp [hblank] at h
    rw [List.count_append, List.count_eq_zero_of_not_mem hnone, Nat.zero_add]
  fun_induction fields? format t generalizing fields with
  | case1 t hempty =>
    rw [List.isEmpty_iff.mp hempty]
    rfl
  | case2 | case4 | case5 | case7 => simp at h
  | case3 a format rest ih =>
    rw [List.count_cons, List.count_cons, ih h]
    congr 1
    simp
  | case6 format t _ ih =>
    have hfront : ∀ a ∈ t.takeWhile CodePoint.isBlank, a.isDecimal = true ∨ a.isBlank = true :=
      fun a ha => Or.inr (List.mem_takeWhile_imp ha)
    rw [← List.takeWhile_append_dropWhile (p := CodePoint.isBlank) (l := t), hskip hfront, ih h]
    simp
  | case8 f format t ih =>
    obtain ⟨⟨n, rest⟩, hn, h⟩ := Option.bind_eq_some_iff.mp h
    obtain ⟨fields', hfields, h⟩ := Option.bind_eq_some_iff.mp h
    obtain ⟨digits, rfl, hdigits, -⟩ := Field.exists_digits hn
    rw [hskip (fun a ha => Or.inl (hdigits a ha)), ih rest hfields]
    simp

/-- A text whose format begins with a field and a mark begins with the digits of the field, and the mark is behind
them. -/
theorem leadingDigits_of_fields {f : Field} (hmark : c.isDecimal = false)
    (h : fields? (.field f :: .literal c :: format) t = some fields) :
    t[leadingDigits t]? = some c ∧ if f = .year then leadingDigits t = 4 else leadingDigits t ≤ 2 := by
  obtain ⟨⟨n, rest⟩, hn, h⟩ := Option.bind_eq_some_iff.mp h
  obtain ⟨fields', hfields, -⟩ := Option.bind_eq_some_iff.mp h
  obtain ⟨digits, rfl, hdigits, hlength⟩ := Field.exists_digits hn
  clear h
  unfold fields? at hfields
  split at hfields
  · next d rest' =>
    split_ifs at hfields with hd
    obtain rfl := hd
    have hleading : leadingDigits (digits ++ d :: rest') = digits.length := by
      rw [leadingDigits_append hdigits, leadingDigits, List.takeWhile_cons_of_neg (by simp [hmark])]
      rfl
    rw [hleading]
    exact ⟨by simp, hlength⟩
  · simp at hfields

/-- Whether a format begins with the year. -/
def yearFirst (format : Format) : Bool :=
  format.head? = some (.field .year)

/-- A format begins with a field and a mark behind it, which is a slash behind a year. -/
theorem exists_front (h : format ∈ all) : ∃ f m rest, format = .field f :: .literal m :: rest ∧
    m.isDecimal = false ∧ (f = .year → m = '/') := by
  obtain ⟨date, hdate, h⟩ := List.mem_flatMap.mp h
  obtain ⟨time, -, rfl⟩ := List.mem_map.mp h
  simp only [dates, List.mem_cons, List.not_mem_nil, or_false] at hdate
  rcases hdate with rfl | rfl | rfl
  · exact ⟨_, _, _, rfl, rfl, nofun⟩
  · exact ⟨_, _, _, rfl, rfl, fun _ => rfl⟩
  · exact ⟨_, _, _, rfl, rfl, nofun⟩

/-- A text of a format with the year first begins with four digits and a slash, and one of another format with fewer
digits. -/
theorem leadingDigits_of_read (h : format ∈ all) {d : DateTime} (hread : format.read? t = some d) :
    if format.yearFirst then leadingDigits t = 4 ∧ t[4]? = some ('/' : CodePoint) else leadingDigits t ≤ 2 := by
  obtain ⟨fields, hfields, -⟩ := Option.bind_eq_some_iff.mp hread
  obtain ⟨f, m, rest, rfl, hm, hyear⟩ := exists_front h
  obtain ⟨hmark, hlength⟩ := leadingDigits_of_fields hm hfields
  by_cases hf : f = .year
  · rw [if_pos hf] at hlength
    rw [if_pos (by simp [yearFirst, hf]), ← hyear hf, ← hmark, hlength]
    exact ⟨rfl, rfl⟩
  · rw [if_neg hf] at hlength
    rwa [if_neg (by simp [yearFirst, hf])]

/-- Whether the year is first in a format, and how many points and colons it has. -/
def outline (format : Format) : Bool × Nat × Nat :=
  (format.yearFirst, format.count (.literal '.'), format.count (.literal ':'))

/-- The formats of a text have one outline. -/
theorem outline_of_read {format' : Format} (h : format ∈ all) (h' : format' ∈ all) {d d' : DateTime}
    (hread : format.read? t = some d) (hread' : format'.read? t = some d') : format.outline = format'.outline := by
  have hyear : format.yearFirst = format'.yearFirst := by
    have hdigits := leadingDigits_of_read h hread
    have hdigits' := leadingDigits_of_read h' hread'
    by_contra hne
    split_ifs at hdigits hdigits' with hyear hyear' hyear'
    · exact hne (hyear.trans hyear'.symm)
    · omega
    · omega
    · exact hne ((Bool.eq_false_iff.mpr hyear).trans (Bool.eq_false_iff.mpr hyear').symm)
  have hcount (c : CodePoint) (hdecimal : c.isDecimal = false) (hblank : c.isBlank = false) :
      format.count (.literal c) = format'.count (.literal c) := by
    obtain ⟨fields, hfields, -⟩ := Option.bind_eq_some_iff.mp hread
    obtain ⟨fields', hfields', -⟩ := Option.bind_eq_some_iff.mp hread'
    rw [← count_of_fields hdecimal hblank hfields, count_of_fields hdecimal hblank hfields']
  rw [outline, outline, hyear, hcount '.' rfl rfl, hcount ':' rfl rfl]

/-- The outlines of the formats differ. -/
theorem nodup_outlines : (all.map outline).Nodup := by
  decide +kernel

end Format

/-! ### ISO 8601 -/

namespace Iso

variable {t : Text} {c : CodePoint}

theorem digits_nil (count : Nat) : digits? (count + 1) [] = none := by
  simp [digits?]

theorem digits_cons_none (hc : c.isDigit = false) (count : Nat) (t : Text) : digits? (count + 1) (c :: t) = none := by
  simp [digits?, hc]

/-- A date begins with the four digits of its year, and no slash is behind them. -/
theorem exists_year {d : Date} (h : date? t = some d) : ∃ (year : Text) (c : CodePoint) (rest : Text),
    t = year ++ c :: rest ∧ year.length = 4 ∧ (∀ a ∈ year, a.isDigit = true) ∧ c ≠ '/' := by
  obtain ⟨⟨n, rest⟩, hyear, h⟩ := Option.bind_eq_some_iff.mp h
  simp only [digits?] at hyear
  split_ifs at hyear with hdigits
  obtain ⟨hlength, hdigits⟩ := Bool.and_eq_true_iff.mp hdigits
  obtain ⟨-, rfl⟩ := Prod.mk.inj (Option.some.inj hyear)
  have ht : t = t.take 4 ++ t.drop 4 := (List.take_append_drop 4 t).symm
  cases hrest : t.drop 4 with
  | nil => simp [hrest, hasAt, digits_nil] at h
  | cons c rest =>
    refine ⟨t.take 4, c, rest, hrest ▸ ht, of_decide_eq_true hlength, List.all_eq_true.mp hdigits, ?_⟩
    rintro rfl
    have hdigit : CodePoint.isDigit '/' = false := by decide
    have hhyphen : ('/' : CodePoint) ≠ '-' := by decide
    have hweek : ('/' : CodePoint) ≠ 'W' := by decide
    simp [hrest, hasAt, digits_cons_none hdigit, hhyphen, hweek] at h

/-- A date is no shorter than a year with a week. -/
theorem le_dateLength (t : Text) : 7 ≤ dateLength t := by
  dsimp only [dateLength]
  split_ifs <;> omega

/-- A date and time that is read has what it begins with from the text. -/
theorem take_withoutSurrogate (t : Text) : (withoutSurrogate t).take 7 = t.take 7 := by
  unfold withoutSurrogate
  split
  · next i hi =>
    have hle : 7 ≤ i := by
      have hmem := List.mem_of_find?_eq_some hi
      simp only [List.mem_cons, List.not_mem_nil, or_false] at hmem
      omega
    exact List.take_set_of_le hle
  · rfl

/-- A text of ISO 8601 begins with four digits at least, and there is no slash behind the fourth. -/
theorem leadingDigits_of_read {d : DateTime} (h : read? t = some d) :
    4 ≤ leadingDigits t ∧ t[4]? ≠ some ('/' : CodePoint) := by
  simp only [read?] at h
  split_ifs at h
  obtain ⟨date, hdate, -⟩ := Option.bind_eq_some_iff.mp h
  obtain ⟨year, c, rest, heq, hlength, hdigits, hc⟩ := exists_year hdate
  have hfront : t.take 5 = year ++ [c] := by
    calc t.take 5 = (t.take 7).take 5 := by rw [List.take_take, Nat.min_eq_left (by decide)]
      _ = (withoutSurrogate t).take 5 := by
        rw [← take_withoutSurrogate, List.take_take, Nat.min_eq_left (by decide)]
      _ = ((withoutSurrogate t).take (dateLength (withoutSurrogate t))).take 5 := by
        rw [List.take_take, Nat.min_eq_left (Nat.le_trans (by decide) (le_dateLength _))]
      _ = year ++ [c] := by
        rw [heq, List.take_append, List.take_of_length_le (by rw [hlength]; decide), hlength]
        rfl
  have ht : t = year ++ c :: t.drop 5 := by
    calc t = t.take 5 ++ t.drop 5 := (List.take_append_drop 5 t).symm
      _ = year ++ c :: t.drop 5 := by rw [hfront, List.append_assoc, List.cons_append, List.nil_append]
  rw [ht]
  constructor
  · rw [leadingDigits_append (fun a ha => isDecimal_of_isDigit (hdigits a ha)), hlength]
    exact Nat.le_add_right 4 _
  · rw [← hlength, List.getElem?_append_right (Nat.le_refl _), Nat.sub_self]
    exact fun h => hc (Option.some.inj h)

end Iso

/-! ### The readings of a date -/

namespace Clock

open Spacing

/-- The ways of reading a date and time, in their order. -/
def readings : List (Text → Option DateTime) :=
  Iso.read? :: Format.all.map Format.read?

/-- The date and time that a text is, in the first of some ways of reading it that settles the matter. -/
def calendarBy (clock : Clock) (order : List (Text → Option DateTime)) (t : Text) :
    Option (Except Misuse DateTime) :=
  order.findSome? fun read => clock.settled? read t

/-- Reads an instant, dates and times in some order of the ways of reading them. -/
def readBy (clock : Clock) (order : List (Text → Option DateTime)) (t : Text) : Except Fault DateTime :=
  let normal := tidy t
  if isNumber normal then
    match number normal with
    | .ok value => clock.ofSeconds value
    | .error m => .error (.misuse m)
  else match Keyword.ofText? normal with
    | some word => (clock.ofKeyword word).mapError .misuse
    | none =>
      match clock.calendarBy order normal with
      | some outcome => outcome.mapError .misuse
      | none => .error (.unreadable t)

/-- A clock reads dates and times in the order of `readings`. -/
theorem readBy_readings (clock : Clock) : clock.readBy readings = clock.read := rfl

/-- A text that is of ISO 8601 has no format, and one that has a format has no other one. -/
theorem pairwise_readings (t : Text) : readings.Pairwise fun read read' => read t = none ∨ read' t = none := by
  rw [readings, List.pairwise_cons, List.pairwise_map]
  constructor
  · intro read hread
    obtain ⟨format, hformat, rfl⟩ := List.mem_map.mp hread
    cases hiso : Iso.read? t with
    | none => exact .inl rfl
    | some d =>
      cases hread : format.read? t with
      | none => exact .inr rfl
      | some d' =>
        obtain ⟨hle, hslash⟩ := Iso.leadingDigits_of_read hiso
        have hdigits := Format.leadingDigits_of_read hformat hread
        split_ifs at hdigits
        · exact absurd hdigits.2 hslash
        · omega
  · have hdistinct := List.pairwise_map.mp Format.nodup_outlines
    refine hdistinct.imp_of_mem fun {format format'} hformat hformat' hne => ?_
    cases hread : format.read? t with
    | none => exact .inl rfl
    | some d =>
      cases hread' : format'.read? t with
      | none => exact .inr rfl
      | some d' => exact absurd (Format.outline_of_read hformat hformat' hread hread') hne

/-- The first result that a function gives on a list is the same in any order when it gives one at most. -/
theorem findSome?_perm {α β : Type} {f : α → Option β} {xs ys : List α} (h : xs.Perm ys)
    (hone : xs.Pairwise fun x y => f x = none ∨ f y = none) : xs.findSome? f = ys.findSome? f := by
  induction h with
  | nil => rfl
  | cons x _ ih => rw [List.findSome?_cons, List.findSome?_cons, ih hone.of_cons]
  | swap x y l =>
    rcases (List.pairwise_cons.mp hone).1 x List.mem_cons_self with hnone | hnone
    · simp [List.findSome?_cons, hnone]
    · simp [List.findSome?_cons, hnone]
  | trans h₁ _ ih₁ ih₂ => rw [ih₁ hone, ih₂ (hone.perm h₁ Or.symm)]

/-- So at most one of the ways of reading a text settles the matter. -/
theorem pairwise_settled (clock : Clock) (t : Text) :
    readings.Pairwise fun read read' => clock.settled? read t = none ∨ clock.settled? read' t = none := by
  have hnone {read : Text → Option DateTime} (h : read t = none) : clock.settled? read t = none := by
    rw [settled?, h, Option.bind_none]
  exact (pairwise_readings t).imp fun h => h.imp hnone hnone

/-- And the date and time that a text is, is what any one of them settles. -/
theorem calendar_eq_some_iff {clock : Clock} {t : Text} {outcome : Except Misuse DateTime} :
    clock.calendar? t = some outcome ↔ ∃ read ∈ readings, clock.settled? read t = some outcome := by
  refine ⟨List.exists_of_findSome?_eq_some, fun ⟨read, hread, hsettled⟩ => ?_⟩
  obtain ⟨front, back, horder⟩ := List.append_of_mem hread
  have hperm : readings.Perm (read :: (front ++ back)) := horder ▸ List.perm_middle
  rw [calendar?, ← readings, findSome?_perm hperm (clock.pairwise_settled t), List.findSome?_cons, hsettled]

/-- A text is a date and time in one way at most, so that in every order of the ways of reading it a clock reads the
same instant, or fails for the same reason. -/
theorem one_reading (t : Text) :
    (readings.Pairwise fun read read' => read (tidy t) = none ∨ read' (tidy t) = none) ∧
      ∀ (clock : Clock) (order : List (Text → Option DateTime)), order.Perm readings →
        clock.readBy order t = clock.read t := by
  refine ⟨pairwise_readings _, fun clock order horder => ?_⟩
  have hcalendar : clock.calendarBy order (tidy t) = clock.calendarBy readings (tidy t) :=
    (findSome?_perm horder.symm (clock.pairwise_settled (tidy t))).symm
  rw [← readBy_readings, readBy, readBy, hcalendar]

theorem one_reading_reversed : readings.reverse.Perm readings ∧
    Clock.readBy {} readings.reverse "03/04/2021" = Clock.read {} "03/04/2021" :=
  ⟨List.reverse_perm readings, (one_reading "03/04/2021").2 {} readings.reverse (List.reverse_perm readings)⟩

end Clock

end FileSieve
