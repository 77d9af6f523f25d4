import FileSieve.Proofs.Time.Formats
import FileSieve.Proofs.Time.Rendered
import FileSieve.Proofs.Time.Seconds

/-!
# What becomes of a text that is read as an instant

A clock in a fixed zone gives an instant for a text, or says that it cannot be read, or that its number is outside of
the calendar (`Clock.Answered`), with one exception: a number without a point is read as an integer, which may have at
most `maxDigits` digits, and a longer one fails otherwise (`Clock.read_outcome`). Words for times have an instant as long
as the clock does not show one of the first or last days of the calendar.
-/

namespace FileSieve.Clock

variable {clock : Clock} {t : Text}

/-! ### Answers -/

/-- An instant that exists, or one of the reasons why there is none. -/
inductive Answered (t : Text) : Except Fault DateTime → Prop
  /-- An instant. -/
  | instant {d : DateTime} : d.isAware = true → d.Valid → Answered t (.ok d)
  /-- The text is none. -/
  | unreadable : Answered t (.error (.unreadable t))
  /-- The number is outside of the calendar. -/
  | outOfRange {shown : Text} : Answered t (.error (.outOfRange shown))

/-- A clock in a fixed zone that does not show the first or the last day of the calendar. -/
structure Steady (clock : Clock) : Prop where
  /-- The zone is fixed, less than a day from UTC. -/
  zone : ∃ o : Offset, clock.zone = .fixed o ∧ o.natAbs < DateTime.perDay
  /-- The day before is in the calendar. -/
  first : 2 * DateTime.perDay ≤ clock.now + clock.zone.ahead clock.now
  /-- The day after is in the calendar. -/
  last : clock.now + clock.zone.ahead clock.now < Date.maxDayNumber * DateTime.perDay

theorem Steady.bounded (h : Steady clock) : clock.zone.Bounded := by
  obtain ⟨o, hzone, ho⟩ := h.zone
  rw [hzone]
  exact ho

/-- What names no zone gets the clock's. -/
theorem Steady.exists_inZone (h : Steady clock) (d : DateTime) : ∃ e, clock.inZone d = .ok e := by
  obtain ⟨o, hzone, -⟩ := h.zone
  unfold inZone
  split_ifs
  · exact ⟨d, rfl⟩
  · rw [hzone]
    exact ⟨_, rfl⟩

/-- Every word has an instant. -/
theorem Steady.exists_ofKeyword (h : Steady clock) (word : Keyword) : ∃ d, clock.ofKeyword word = .ok d := by
  obtain ⟨o, hzone, -⟩ := h.zone
  obtain ⟨hfirst, hlast⟩ := And.intro h.first h.last
  rw [hzone, Zone.ahead] at hfirst hlast
  have hpositive : (0 : Int) < DateTime.perDay := by decide
  have hwithin : (DateTime.perDay : Int) ≤ clock.now + o ∧ clock.now + o < (Date.maxDayNumber + 1) * DateTime.perDay := by
    rw [Int.add_mul]
    omega
  obtain ⟨now, hnow⟩ := DateTime.exists_ofClock (some o) hwithin.1 hwithin.2
  have hshown : clock.shownAt clock.now = .ok now := by
    rw [shownAt, hzone]
    simp only [hnow]
  have hday := DateTime.dayNumber_of_ofClock hnow
  have hmin : 2 ≤ now.date.dayNumber := by
    have := (Int.le_ediv_iff_mul_le hpositive).mpr hfirst
    omega
  have hmax : now.date.dayNumber < Date.maxDayNumber := by
    have := (Int.ediv_lt_iff_lt_mul hpositive).mpr hlast
    omega
  have hdays : -1 ≤ word.days ∧ word.days ≤ 1 := by cases word <;> decide
  have hadd : ∃ date, now.date.add? word.days = some date := by
    rw [Date.add?, if_neg]
    · exact ⟨_, rfl⟩
    · simp only [Bool.or_eq_true, decide_eq_true_eq, not_or]
      omega
  obtain ⟨date, hdate⟩ := hadd
  by_cases hword : word = .now
  · exact ⟨now, bind_eq_ok.mpr ⟨now, hshown, if_pos hword⟩⟩
  · obtain ⟨d, hd⟩ := h.exists_inZone { date }
    exact ⟨d, bind_eq_ok.mpr ⟨now, hshown, by rw [if_neg hword, hdate]; exact hd⟩⟩

/-! ### Dates and times beyond the calendar -/

/-- A text that is a date and time of the clock's zone which, as an instant, is beyond the calendar. -/
def Beyond (clock : Clock) (t : Text) : Prop :=
  ∃ read ∈ readings, ∃ d, read (Spacing.tidy t) = some d ∧ clock.inZone d = .error .dateOverflow

theorem calendar_overflow_iff : clock.calendar? (Spacing.tidy t) = some (.error .dateOverflow) ↔ clock.Beyond t := by
  rw [calendar_eq_some_iff]
  refine exists_congr fun read => and_congr_right fun _ => ?_
  rw [settled_eq_some]
  exact exists_congr fun d => ⟨fun ⟨hd, hzone, _⟩ => ⟨hd, hzone⟩, fun ⟨hd, hzone⟩ => ⟨hd, hzone, .inr rfl⟩⟩

/-- Otherwise it is an instant or none. -/
theorem calendar_cases (clock : Clock) (t : Text) : clock.calendar? t = none ∨ (∃ d, clock.calendar? t = some (.ok d)) ∨
    clock.calendar? t = some (.error .dateOverflow) := by
  cases hcalendar : clock.calendar? t with
  | none => exact .inl rfl
  | some outcome =>
    obtain ⟨-, -, -, -, -, ⟨d, rfl⟩ | rfl⟩ := exists_of_calendar hcalendar
    · exact .inr (.inl ⟨d, rfl⟩)
    · exact .inr (.inr rfl)

/-- In a fixed zone there is no such text. -/
theorem Steady.not_beyond (h : Steady clock) (t : Text) : ¬clock.Beyond t := by
  rintro ⟨-, -, d, -, hover⟩
  obtain ⟨e, he⟩ := h.exists_inZone d
  cases he.symm.trans hover

/-- Nor is there one by local clocks that are always ahead of UTC by the same, or at it. -/
theorem not_beyond_of_ahead {rules : Zone.Rules} {n : Int} (hn : 0 ≤ n) (hsteady : ∀ second, rules.ahead second = n)
    (now : Int) (t : Text) : ¬Beyond { zone := .local rules, now } t := by
  rintro ⟨read, hread, d, hd, hover⟩
  have hvalid := valid_of_reading hread hd
  rw [inZone] at hover
  split_ifs at hover
  have hpast := (Zone.Rules.place_overflow_iff hsteady hvalid).mp hover
  have hwithin := (DateTime.within_of_ofClock (DateTime.ofClock_clock hvalid)).2
  have hahead : 0 ≤ n * DateTime.perSecond := Int.mul_nonneg hn (by decide)
  omega

/-! ### Numbers -/

/-- A number that can be written has an instant or is outside of the calendar. -/
theorem ofSeconds_cases (clock : Clock) {value : Value} {shown : Text} (hvalue : value.plain = .ok shown) :
    (∃ d, clock.ofSeconds value = .ok d) ∨ clock.ofSeconds value = .error (.outOfRange shown) := by
  rw [ofSeconds]
  split
  · exact .inl ⟨_, rfl⟩
  · rw [hvalue]
    exact .inr rfl

/-- A text that is a sign, if any, and more digits than an integer may have. -/
def LongNumber (t : Text) : Prop :=
  ∃ negative digits, SignedDigits t negative digits ∧ maxDigits < digits.length

/-- A number in a text can be worked with and written, unless it has no point and too many digits. -/
theorem number_cases (h : isNumber t = true) :
    (¬LongNumber t ∧ ∃ value shown, number t = .ok value ∧ value.plain = .ok shown) ∨
      ∃ negative digits, SignedDigits t negative digits ∧ maxDigits < digits.length ∧
        number t = .error (.tooManyDigits digits.length) := by
  by_cases hpoint : ('.' : CodePoint) ∈ t
  · have hshort : ¬LongNumber t := by
      rintro ⟨negative, digits, hsigned, -⟩
      exact (hsigned.point hpoint).1 rfl
    refine .inl ⟨hshort, ?_⟩
    rw [number, if_pos (List.contains_iff_mem.mpr hpoint)]
    exact ⟨_, _, rfl, rfl⟩
  · obtain ⟨negative, digits, hsigned⟩ := signed_of_isNumber h hpoint
    have hnumber := number_of_signed hsigned
    by_cases hlong : maxDigits < digits.length
    · exact .inr ⟨negative, digits, hsigned, hlong, hnumber.trans (if_pos hlong)⟩
    · rw [if_neg hlong] at hnumber
      have hshort : ¬TooLong (if negative then -(Numeral.value digits : Int) else Numeral.value digits) := by
        have hvalue := not_tooLong_value hsigned.all (Nat.le_of_not_lt hlong)
        cases negative with
        | false => exact hvalue
        | true => exact fun h => hvalue ((tooLong_neg _).mp h)
      have hplain := (Value.plain_int _).trans (Int.digits_of_not_tooLong hshort)
      refine .inl ⟨?_, _, _, hnumber, hplain⟩
      rintro ⟨negative', digits', hsigned', hlong'⟩
      obtain ⟨-, rfl⟩ := Prod.mk.inj (hsigned.sign.symm.trans hsigned'.sign)
      exact hlong hlong'

/-! ### Texts -/

/-- A text has an instant, cannot be read, or is a number outside of the calendar, or it is, tidied, a number of too many
digits and has no outcome of its own. -/
theorem read_outcome (clock : Clock) (h : clock.Steady) (t : Text) :
    (¬LongNumber (Spacing.tidy t) ∧ Answered t (clock.read t)) ∨
    (LongNumber (Spacing.tidy t) ∧ ∃ digits, clock.read t = .error (.misuse (.tooManyDigits digits))) := by
  have hanswered {d : DateTime} (hread : clock.read t = .ok d) : Answered t (clock.read t) := by
    rw [hread]
    exact .instant (isAware_of_read hread) (valid_of_read h.bounded hread)
  by_cases hnumber : isNumber (Spacing.tidy t) = true
  · obtain ⟨hlong, value, shown, hvalue, hshown⟩ | ⟨negative, digits, hsigned, hlength, hvalue⟩ := number_cases hnumber
    · have hread : clock.read t = clock.ofSeconds value := by
        simp only [read, hnumber, hvalue, if_true]
      refine .inl ⟨hlong, ?_⟩
      obtain ⟨d, hd⟩ | hout := ofSeconds_cases clock hshown
      · exact hanswered (hread.trans hd)
      · rw [hread, hout]
        exact .outOfRange
    · refine .inr ⟨⟨negative, digits, hsigned, hlength⟩, digits.length, ?_⟩
      simp only [read, hnumber, hvalue, if_true]
  · have hlong : ¬LongNumber (Spacing.tidy t) := by
      rintro ⟨negative, digits, hsigned, -⟩
      exact hnumber (isNumber_of_signed hsigned)
    refine .inl ⟨hlong, ?_⟩
    cases hword : Keyword.ofText? (Spacing.tidy t) with
    | some word =>
      obtain ⟨d, hd⟩ := h.exists_ofKeyword word
      have hread : clock.read t = .ok d := by
        simp only [read, if_neg hnumber, hword, hd]
        rfl
      exact hanswered hread
    | none =>
      obtain hcalendar | ⟨d, hcalendar⟩ | hcalendar := clock.calendar_cases (Spacing.tidy t)
      · have hread : clock.read t = .error (.unreadable t) := by
          simp only [read, if_neg hnumber, hword, hcalendar]
        rw [hread]
        exact .unreadable
      · have hread : clock.read t = .ok d := by
          simp only [read, if_neg hnumber, hword, hcalendar]
          rfl
        exact hanswered hread
      · exact absurd (calendar_overflow_iff.mp hcalendar) (h.not_beyond t)

/-- A clock at UTC that shows the beginning of 1970 is one of these. -/
theorem read_outcome_epoch : Steady {} ∧
    ((¬LongNumber (Spacing.tidy "today") ∧ Answered "today" (read {} "today")) ∨
    (LongNumber (Spacing.tidy "today") ∧ ∃ digits, read {} "today" = .error (.misuse (.tooManyDigits digits)))) := by
  have hsteady : Steady {} := ⟨⟨0, rfl, by decide⟩, by decide, by decide⟩
  exact ⟨hsteady, read_outcome {} hsteady "today"⟩

/-- One digit more than an integer may have: neither an instant nor one of the two reasons. -/
theorem long_number_unanswered : Steady {} ∧
    ¬Answered (List.replicate (maxDigits + 1) '1') (read {} (List.replicate (maxDigits + 1) '1')) := by
  refine ⟨⟨⟨0, rfl, by decide⟩, by decide, by decide⟩, ?_⟩
  have hdigits : Digits (List.replicate (maxDigits + 1) '1') := fun c hc => by
    rw [List.eq_of_mem_replicate hc]
    decide
  have hsigned : SignedDigits (List.replicate (maxDigits + 1) '1') false (List.replicate (maxDigits + 1) '1') :=
    ⟨hdigits, List.cons_ne_nil _ _, .inl ⟨rfl, rfl⟩⟩
  have hlong : (List.replicate (maxDigits + 1) ('1' : CodePoint)).length > maxDigits := by simp
  have hnumber := (number_of_signed hsigned).trans (if_pos hlong)
  simp only [read, tidy_of_signed hsigned, isNumber_of_signed hsigned, hnumber, if_true]
  intro hanswered
  cases hanswered

/-! ### Texts that begin with a digit -/

/-- A text without too many digits in a row is no number of too many digits. -/
theorem not_longNumber_of_shortRuns (h : ShortRuns t) : ¬LongNumber t := by
  rintro ⟨negative, digits, hsigned, hlong⟩
  have hpart : digits <:+: t := by
    obtain ⟨rfl, -⟩ | ⟨rfl, -⟩ | ⟨rfl, -⟩ := hsigned.text
    · exact List.infix_refl t
    · exact (List.suffix_cons _ _).isInfix
    · exact (List.suffix_cons _ _).isInfix
  exact Nat.not_lt.mpr (h digits hpart hsigned.all) hlong

/-- By any clock a text that begins with a digit, without too many digits in a row, has an instant, cannot be read, is a
number outside of the calendar, or a date and time beyond it: it is no word for a time, the only texts that depend on what
the clock shows. -/
theorem read_of_digit (clock : Clock) {d : CodePoint} (hd : d.isDigit = true) {rest : Text}
    (hshort : ShortRuns (d :: rest)) : (∃ e, clock.read (d :: rest) = .ok e) ∨
      clock.read (d :: rest) = .error (.unreadable (d :: rest)) ∨
      (∃ shown, clock.read (d :: rest) = .error (.outOfRange shown)) ∨
      clock.Beyond (d :: rest) ∧ clock.read (d :: rest) = .error (.misuse .dateOverflow) := by
  have hlong : ¬LongNumber (Spacing.tidy (d :: rest)) := not_longNumber_of_shortRuns (Spacing.shortRuns_tidy hshort)
  have hbeyond : clock.calendar? (Spacing.tidy (d :: rest)) = some (.error .dateOverflow) ↔ clock.Beyond (d :: rest) :=
    calendar_overflow_iff
  obtain ⟨u, hu⟩ := Spacing.tidy_cons hd rest
  rw [hu] at hlong hbeyond
  by_cases hnumber : isNumber (d :: u) = true
  · obtain ⟨-, value, shown, hvalue, hshown⟩ | ⟨negative, digits, hsigned, hlength, -⟩ := number_cases hnumber
    · have hread : clock.read (d :: rest) = clock.ofSeconds value := by
        simp only [read, hu, hnumber, hvalue, if_true]
      rw [hread]
      exact (ofSeconds_cases clock hshown).imp_right fun hout => .inr (.inl ⟨shown, hout⟩)
    · exact absurd ⟨negative, digits, hsigned, hlength⟩ hlong
  · simp only [read, hu, if_neg hnumber, ofText_digit hd]
    obtain hcalendar | ⟨e, hcalendar⟩ | hcalendar := clock.calendar_cases (d :: u)
    · rw [hcalendar]
      exact .inr (.inl rfl)
    · rw [hcalendar]
      exact .inl ⟨e, rfl⟩
    · rw [hcalendar]
      exact .inr (.inr (.inr ⟨hbeyond.mp hcalendar, rfl⟩))

end FileSieve.Clock
