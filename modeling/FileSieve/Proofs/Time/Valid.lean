import FileSieve.Proofs.Filter.Clauses
import FileSieve.Proofs.Number.Decimal

/-!
# Dates and times that exist

A clock gives no date and time that is not in the calendar, whatever it reads: the numbers in a text are bounded by
their digits or checked, and an instant is turned into a date only between the first day and the last
(`Date.valid_ofDayNumber`). So `Clock.valid_of_instantOf` holds of every value, as long as the clock's zone is less than
a day from UTC.
-/

namespace FileSieve

namespace Date

/-! ### Dates -/

/-- A date of the calendar. -/
structure Valid (d : Date) : Prop where
  /-- The year is from 1 to 9999. -/
  year : 1 ≤ d.year ∧ d.year ≤ maxYear
  /-- The month is from 1 to 12. -/
  month : 1 ≤ d.month ∧ d.month ≤ 12
  /-- The month has the day. -/
  day : 1 ≤ d.day ∧ d.day ≤ daysInMonth d.year d.month

/-- Numbers are a date exactly when it is one of the calendar. -/
theorem of_eq_ok {year month day : Nat} {d : Date} :
    Date.of year month day = .ok d ↔ d = ⟨year, month, day⟩ ∧ Valid ⟨year, month, day⟩ := by
  have hout {k least most : Nat} (h : k < least ∨ most < k) : ¬(least ≤ k ∧ k ≤ most) := by omega
  unfold Date.of
  split_ifs with hyear hmonth hday
  all_goals simp only [Bool.or_eq_true, decide_eq_true_eq, not_or, Nat.not_lt] at *
  · exact iff_of_false nofun fun h => hout hyear h.2.year
  · exact iff_of_false nofun fun h => hout hmonth h.2.month
  · exact iff_of_false nofun fun h => hout hday h.2.day
  · exact ⟨fun h => ⟨(Except.ok.inj h).symm, ⟨hyear, hmonth, hday⟩⟩, fun h => congrArg Except.ok h.1.symm⟩

theorem valid_of_toOption {year month day : Nat} {d : Date} (h : (Date.of year month day).toOption = some d) :
    d.Valid := by
  cases hd : Date.of year month day with
  | error fault => simp [hd, Except.toOption] at h
  | ok e =>
    obtain rfl : e = d := by simpa [hd, Except.toOption] using h
    obtain ⟨rfl, hvalid⟩ := of_eq_ok.mp hd
    exact hvalid

theorem Valid.of_self {d : Date} (h : d.Valid) : Date.of d.year d.month d.day = .ok d :=
  of_eq_ok.mpr ⟨rfl, h⟩

/-- A month of a year has the day that is counted off its months. -/
theorem monthAndDay_bounds {lengths : List Nat} (month : Nat) {n : Nat}
    (h : n < lengths.foldr (· + ·) 0) :
    month ≤ (monthAndDay lengths month n).1 ∧ (monthAndDay lengths month n).1 < month + lengths.length ∧
      1 ≤ (monthAndDay lengths month n).2 ∧
      (monthAndDay lengths month n).2 ≤ lengths.getD ((monthAndDay lengths month n).1 - month) 0 := by
  fun_induction monthAndDay lengths month n with
  | case1 month n => exact absurd h (Nat.not_lt_zero n)
  | case2 length lengths month n hlt =>
    refine ⟨Nat.le_refl _, by rw [List.length_cons]; omega, Nat.succ_pos n, ?_⟩
    rw [Nat.sub_self, List.getD_cons_zero]
    exact hlt
  | case3 length lengths month n hle ih =>
    rw [List.foldr_cons] at h
    obtain ⟨h1, h2, h3, h4⟩ := ih (by omega)
    refine ⟨by omega, by rw [List.length_cons]; omega, h3, ?_⟩
    rw [show (monthAndDay lengths (month + 1) (n - length)).1 - month =
      (monthAndDay lengths (month + 1) (n - length)).1 - (month + 1) + 1 by omega, List.getD_cons_succ]
    exact h4

/-- The year of a day that is counted off in cycles, centuries, groups of four years and years, and the place of the day
in its year: only a leap year has a day 365, counted from zero. -/
theorem yearAndDay_bounds {m cycles m1 centuries m2 groups m3 years m4 year : Nat} (hm : m < maxDayNumber)
    (hcycles : cycles = m / 146097) (hm1 : m1 = m % 146097) (hcenturies : centuries = min (m1 / 36524) 3)
    (hm2 : m2 = m1 - centuries * 36524) (hgroups : groups = m2 / 1461) (hm3 : m3 = m2 % 1461)
    (hyears : years = min (m3 / 365) 3) (hm4 : m4 = m3 - years * 365)
    (hyear : year = cycles * 400 + centuries * 100 + groups * 4 + years + 1) :
    (1 ≤ year ∧ year ≤ maxYear) ∧ m4 < if isLeap year then 366 else 365 := by
  unfold maxDayNumber at hm
  unfold maxYear
  refine ⟨by omega, ?_⟩
  split_ifs with hleap
  · omega
  · simp only [isLeap, Bool.and_eq_true, Bool.or_eq_true, beq_iff_eq, bne_iff_ne] at hleap
    omega

/-- A day that a year has is a date. -/
theorem valid_monthAndDay {year n : Nat} (hyear : 1 ≤ year ∧ year ≤ maxYear)
    (hn : n < if isLeap year then 366 else 365) :
    Valid ⟨year, (monthAndDay (monthLengths (isLeap year)) 1 n).1,
      (monthAndDay (monthLengths (isLeap year)) 1 n).2⟩ := by
  have hlength : (monthLengths (isLeap year)).length = 12 := by cases isLeap year <;> rfl
  have hsum : (monthLengths (isLeap year)).foldr (· + ·) 0 = if isLeap year then 366 else 365 := by
    cases isLeap year <;> rfl
  rw [← hsum] at hn
  obtain ⟨h1, h2, h3, h4⟩ := monthAndDay_bounds 1 hn
  rw [hlength] at h2
  exact ⟨hyear, ⟨h1, Nat.le_of_lt_succ h2⟩, h3, h4⟩

/-- The days of the calendar are dates. -/
theorem valid_ofDayNumber {n : Nat} (h : 1 ≤ n) (hmax : n ≤ maxDayNumber) : (ofDayNumber n).Valid := by
  have hm : n - 1 < maxDayNumber := by omega
  obtain ⟨hyear, hday⟩ := yearAndDay_bounds hm rfl rfl rfl rfl rfl rfl rfl rfl rfl
  exact valid_monthAndDay hyear hday

theorem valid_of_add {d e : Date} {days : Int} (h : d.add? days = some e) : e.Valid := by
  simp only [add?] at h
  split_ifs at h with hout
  simp only [Bool.or_eq_true, decide_eq_true_eq, not_or] at hout
  rw [← Option.some.inj h]
  exact valid_ofDayNumber (by omega) (by omega)

end Date

namespace DateTime

/-- A date and time that exists. -/
structure Valid (d : DateTime) : Prop where
  /-- The date is one of the calendar. -/
  date : d.date.Valid
  /-- The hour is below 24. -/
  hour : d.hour < 24
  /-- The minute is below 60. -/
  minute : d.minute < 60
  /-- The second is below 60. -/
  second : d.second < 60
  /-- The microsecond is below a million. -/
  microsecond : d.microsecond < perSecond
  /-- The offset is less than a day either way. -/
  offset : ∀ o ∈ d.offset, o.natAbs < perDay

/-- Every date has a midnight. -/
theorem Valid.midnight {date : Date} {offset : Option Offset} (hdate : date.Valid)
    (hoffset : ∀ o ∈ offset, o.natAbs < perDay) : Valid { date, offset } :=
  ⟨hdate, Nat.zero_lt_succ _, Nat.zero_lt_succ _, Nat.zero_lt_succ _, Nat.zero_lt_succ _, hoffset⟩

/-- What a clock shows within the calendar exists. -/
theorem valid_of_ofClock {micros : Int} {offset : Option Offset} {d : DateTime}
    (hoffset : ∀ o ∈ offset, o.natAbs < perDay) (h : ofClock? micros offset = some d) : d.Valid := by
  simp only [ofClock?] at h
  split_ifs at h with hout
  simp only [Bool.or_eq_true, decide_eq_true_eq, not_or] at hout
  have htime : (micros % perDay).toNat < perDay := by
    have hpos : (0 : Int) < perDay := by decide
    have := Int.emod_lt_of_pos micros hpos
    omega
  obtain rfl := Option.some.inj h
  simp only [perDay, perSecond] at *
  refine ⟨Date.valid_ofDayNumber (by omega) (by omega), ?_, ?_, ?_, ?_, hoffset⟩
  · show _ / _ < 24
    omega
  · exact Nat.mod_lt _ (by decide)
  · exact Nat.mod_lt _ (by decide)
  · exact Nat.mod_lt _ (by decide)

end DateTime

/-! ### Texts of ISO 8601 -/

namespace Iso

theorem digits_lt {count n : Nat} {t rest : Text} (h : digits? count t = some (n, rest)) : n < Nat.pow 10 count := by
  simp only [digits?] at h
  split_ifs at h with hdigits
  simp only [Bool.and_eq_true, decide_eq_true_eq, List.all_eq_true] at hdigits
  obtain ⟨rfl, -⟩ := Prod.mk.inj (Option.some.inj h)
  have hlt := Numeral.value_lt hdigits.2
  rwa [hdigits.1] at hlt

/-- A fraction of a second is less than a second. -/
theorem micros_of_fraction {parts : List Nat} {t : Text} {r : Reading} (h : fraction? parts t = some r) :
    r.micros < DateTime.perSecond := by
  obtain ⟨⟨n, rest⟩, hn, h⟩ := Option.bind_eq_some_iff.mp h
  obtain rfl := Option.some.inj h
  have hlt : n < 10 ^ min 6 t.length := digits_lt hn
  have hcount : min 6 t.length + (6 - min 6 t.length) = 6 := by omega
  calc n * 10 ^ (6 - min 6 t.length)
      < 10 ^ min 6 t.length * 10 ^ (6 - min 6 t.length) :=
        Nat.mul_lt_mul_of_pos_right hlt (Nat.pow_pos (by decide))
    _ = 10 ^ 6 := by rw [← Nat.pow_add, hcount]

theorem micros_of_clock {left : Nat} {colons : Option Bool} {parts : List Nat} {t : Text} {r : Reading}
    (h : clock? left colons parts t = some r) : r.micros < DateTime.perSecond := by
  induction left generalizing colons parts t with
  | zero => exact micros_of_fraction h
  | succ left ih =>
    have hzero : 0 < DateTime.perSecond := by decide
    obtain ⟨⟨n, rest⟩, -, h⟩ := Option.bind_eq_some_iff.mp h
    cases rest with
    | nil =>
      rw [← Option.some.inj h]
      exact hzero
    | cons c more =>
      cases more with
      | nil =>
        simp only at h
        split_ifs at h
        rw [← Option.some.inj h]
        exact hzero
      | cons d more =>
        simp only at h
        split_ifs at h
        · exact ih h
        · exact micros_of_fraction h
        · exact ih h

theorem natAbs_of_offset {t : Text} {o : Offset} (h : offset? t = some o) : o.natAbs < DateTime.perDay := by
  have hzero : (0 : Offset).natAbs < DateTime.perDay := by decide
  cases t with
  | nil => simp [offset?] at h
  | cons sign rest =>
    rw [offset?] at h
    by_cases hutc : sign = 'Z'
    · rw [if_pos hutc] at h
      split_ifs at h
      rwa [← Option.some.inj h]
    · rw [if_neg hutc] at h
      obtain ⟨r, -, h⟩ := Option.bind_eq_some_iff.mp h
      simp only at h
      split_ifs at h with _ _ hlt
      · rwa [← Option.some.inj h]
      · rwa [← Option.some.inj h, Int.natAbs_neg, Int.natAbs_natCast]
      · rwa [← Option.some.inj h, Int.natAbs_natCast]

theorem valid_of_weekDate {year week day : Nat} {d : Date} (h : weekDate? year week day = some d) : d.Valid := by
  unfold weekDate? at h
  extract_lets last at h
  split_ifs at h with hfields hout
  simp only [Bool.or_eq_true, decide_eq_true_eq, not_or] at hout
  have hd := Option.some.inj h
  rw [← hd]
  exact Date.valid_ofDayNumber (by omega) (by omega)

theorem valid_of_date {t : Text} {d : Date} (h : date? t = some d) : d.Valid := by
  simp only [date?, Option.bind_eq_bind, Option.bind_eq_some_iff, Prod.exists, Option.bind_some] at h
  obtain ⟨year, rest, -, h⟩ := h
  split_ifs at h
  · obtain ⟨week, -, h⟩ := Option.bind_eq_some_iff.mp h
    split_ifs at h
    · exact valid_of_weekDate h
    · obtain ⟨u, -, h⟩ := Option.bind_eq_some_iff.mp h
      obtain ⟨day, -, h⟩ := Option.bind_eq_some_iff.mp h
      split_ifs at h
      exact valid_of_weekDate h
  · obtain ⟨month, -, h⟩ := Option.bind_eq_some_iff.mp h
    obtain ⟨u, -, h⟩ := Option.bind_eq_some_iff.mp h
    obtain ⟨day, -, h⟩ := Option.bind_eq_some_iff.mp h
    split_ifs at h
    exact Date.valid_of_toOption h
  · obtain ⟨week, -, h⟩ := Option.bind_eq_some_iff.mp h
    split_ifs at h
    · exact valid_of_weekDate h
    · obtain ⟨day, -, h⟩ := Option.bind_eq_some_iff.mp h
      split_ifs at h
      exact valid_of_weekDate h
  · obtain ⟨month, -, h⟩ := Option.bind_eq_some_iff.mp h
    obtain ⟨day, -, h⟩ := Option.bind_eq_some_iff.mp h
    split_ifs at h
    exact Date.valid_of_toOption h

/-- A time of day in front of an offset, or in front of nothing. -/
theorem timed_eq_some {date : Date} {t : Text} {d : DateTime} :
    timed? date t = some d ↔ ∃ r, clock? 3 none [] (t.takeWhile fun c => !beginsOffset c) = some r ∧ ∃ offset,
      (if (t.dropWhile fun c => !beginsOffset c).isEmpty then (if r.complete then some none else none)
        else (offset? (t.dropWhile fun c => !beginsOffset c)).map some) = some offset ∧
      (r.parts.getD 0 0 < 24 ∧ r.parts.getD 1 0 < 60 ∧ r.parts.getD 2 0 < 60) ∧
      d = ⟨date, r.parts.getD 0 0, r.parts.getD 1 0, r.parts.getD 2 0, r.micros, offset⟩ := by
  have hfields (a b c : Nat) (e : DateTime) :
      (if 24 ≤ a || 60 ≤ b || 60 ≤ c then none else some e) = some d ↔ (a < 24 ∧ b < 60 ∧ c < 60) ∧ d = e := by
    split_ifs with h
    · simp only [Bool.or_eq_true, decide_eq_true_eq] at h
      exact iff_of_false nofun (by omega)
    · simp only [Bool.or_eq_true, decide_eq_true_eq, not_or, Nat.not_le] at h
      rw [Option.some.injEq, eq_comm, and_iff_right ⟨h.1.1, h.1.2, h.2⟩]
  simp only [timed?, Option.bind_eq_bind, Option.bind_eq_some_iff]
  refine exists_congr fun r => and_congr_right fun _ => ?_
  by_cases hzone : (t.dropWhile fun c => !beginsOffset c).isEmpty = true
  · simp only [hzone, if_true, Option.bind_eq_some_iff, hfields]
  · simp only [hzone, if_false, Bool.false_eq_true, Option.bind_eq_some_iff, hfields]

theorem valid_of_timed {date : Date} {t : Text} {d : DateTime} (hdate : date.Valid) (h : timed? date t = some d) :
    d.Valid := by
  obtain ⟨r, hr, offset, hoffset, ⟨hhour, hminute, hsecond⟩, rfl⟩ := timed_eq_some.mp h
  refine ⟨hdate, hhour, hminute, hsecond, micros_of_clock hr, fun o ho => ?_⟩
  obtain rfl := Option.mem_def.mp ho
  split_ifs at hoffset
  · simp at hoffset
  · obtain ⟨o', ho', heq⟩ := Option.map_eq_some_iff.mp hoffset
    rw [← Option.some.inj heq]
    exact natAbs_of_offset ho'

/-- What the reader of ISO 8601 gives exists. -/
theorem valid_of_read {t : Text} {d : DateTime} (h : read? t = some d) : d.Valid := by
  simp only [read?] at h
  split_ifs at h
  obtain ⟨date, hdate, h⟩ := Option.bind_eq_some_iff.mp h
  split at h
  · rw [← Option.some.inj h]
    exact .midnight (valid_of_date hdate) nofun
  · exact valid_of_timed (valid_of_date hdate) h

end Iso

/-! ### Texts by a format -/

namespace Field

theorem digit_lt {c : CodePoint} {n : Nat} (h : digit? c = some n) : n < 10 := by
  obtain ⟨range, -, rfl⟩ := Option.map_eq_some_iff.mp h
  exact Nat.mod_lt _ (by decide)

theorem ofOne_lt {f : Field} {a : CodePoint} {n : Nat} (h : f.ofOne? a = some n) : n < 10 := by
  have hdigit (h : (if a.isDigit && a.digitValue ≠ 0 then some a.digitValue else none) = some n) : n < 10 := by
    split_ifs at h with ha
    rw [← Option.some.inj h]
    exact CodePoint.digitValue_lt (Bool.and_eq_true_iff.mp ha).1
  cases f with
  | day => exact hdigit h
  | month => exact hdigit h
  | _ => exact digit_lt h

theorem ofTwo_le {f : Field} {a b : CodePoint} {n : Nat} (h : f.ofTwo? a b = some n) : n ≤ f.two := by
  obtain ⟨y, -, h⟩ := Option.bind_eq_some_iff.mp h
  simp only at h
  split_ifs at h with hn
  simp only [Bool.and_eq_true, decide_eq_true_eq] at hn
  rw [← Option.some.inj h]
  exact hn.1.2

/-- A field that is no year is at most the greatest number of two digits that it can be, or one digit. -/
theorem read_le {f : Field} {t rest : Text} {n : Nat} (hf : f ≠ .year) (h : f.read? t = some (n, rest)) :
    n ≤ max f.two 9 := by
  have hone {a : CodePoint} {rest' : Text} (h : (f.ofOne? a).map (fun n => (n, rest')) = some (n, rest)) :
      n ≤ max f.two 9 := by
    obtain ⟨n', hn, heq⟩ := Option.map_eq_some_iff.mp h
    obtain ⟨rfl, -⟩ := Prod.mk.inj heq
    exact Nat.le_trans (Nat.le_of_lt_succ (ofOne_lt hn)) (Nat.le_max_right _ _)
  unfold read? at h
  split at h
  · exact absurd rfl hf
  · split at h
    · next hn =>
      obtain ⟨rfl, -⟩ := Prod.mk.inj (Option.some.inj h)
      exact Nat.le_trans (ofTwo_le hn) (Nat.le_max_left _ _)
    · exact hone h
  · exact hone h
  · simp at h

end Field

namespace Format

/-- Every field of a text but the year is at most what the field can be. -/
theorem fields_le {format : Format} {t : Text} {fields : List (Field × Nat)} (h : fields? format t = some fields) :
    ∀ part ∈ fields, part.1 ≠ .year → part.2 ≤ max part.1.two 9 := by
  fun_induction fields? format t generalizing fields with
  | case1 t hempty =>
    obtain rfl : [] = fields := Option.some.inj h
    simp
  | case2 | case4 | case5 | case7 => simp at h
  | case3 c format rest ih => exact ih h
  | case6 format t hblank ih => exact ih h
  | case8 f format t ih =>
    obtain ⟨⟨n, rest⟩, hn, h⟩ := Option.bind_eq_some_iff.mp h
    obtain ⟨fields', hfields, h⟩ := Option.bind_eq_some_iff.mp h
    obtain rfl := Option.some.inj h
    exact List.forall_mem_cons.mpr ⟨fun hf => Field.read_le hf hn, ih rest hfields⟩

theorem lookup_le {fields : List (Field × Nat)} (h : ∀ part ∈ fields, part.1 ≠ .year → part.2 ≤ max part.1.two 9)
    {f : Field} (hf : f ≠ .year) : (fields.lookup f).getD 0 ≤ max f.two 9 := by
  cases hn : fields.lookup f with
  | none => exact Nat.zero_le _
  | some n =>
    obtain ⟨front, back, rfl, -⟩ := List.lookup_eq_some_iff.mp hn
    exact h (f, n) (by simp) hf

/-- What a format gives exists. -/
theorem valid_of_read {format : Format} {t : Text} {d : DateTime} (h : format.read? t = some d) : d.Valid := by
  obtain ⟨fields, hfields, h⟩ := Option.bind_eq_some_iff.mp h
  obtain ⟨date, hdate, h⟩ := Option.bind_eq_some_iff.mp h
  split_ifs at h with hsecond
  rw [← Option.some.inj h]
  have hhour : (fields.lookup .hour).getD 0 ≤ 23 := lookup_le (fields_le hfields) nofun
  have hminute : (fields.lookup .minute).getD 0 ≤ 59 := lookup_le (fields_le hfields) nofun
  exact ⟨Date.valid_of_toOption hdate, Nat.lt_succ_of_le hhour, Nat.lt_succ_of_le hminute, Nat.lt_of_not_le hsecond,
    Nat.zero_lt_succ _, nofun⟩

end Format

/-! ### Instants that a clock gives -/

/-- A zone less than a day from UTC. Local clocks always stand in one. -/
def Zone.Bounded : Zone → Prop
  | .fixed offset => offset.natAbs < DateTime.perDay
  | .local _ => True

namespace Zone.Rules

variable {rules : Rules} {d : DateTime}

/-- Local clocks are ahead by less than a day. -/
theorem ahead_micros_lt (rules : Rules) (second : Int) :
    (rules.ahead second * DateTime.perSecond).natAbs < DateTime.perDay := by
  have hlt := rules.ahead_lt second
  rw [Int.natAbs_mul, Int.natAbs_natCast, DateTime.perDay]
  exact Nat.mul_lt_mul_of_pos_right hlt (by decide)

theorem valid_of_place {later : Bool} {e : DateTime} (h : rules.place later e = .ok d) : d.Valid := by
  obtain ⟨second, -, hseen⟩ := seen_of_place h
  refine DateTime.valid_of_ofClock (fun o ho => ?_) (seen_eq_ok.mp hseen)
  obtain rfl := Option.some.inj ho
  exact rules.ahead_micros_lt _

end Zone.Rules

namespace Clock

variable {clock : Clock} {d : DateTime}

theorem valid_of_inZone (hzone : clock.zone.Bounded) {e : DateTime} (he : e.Valid) (h : clock.inZone e = .ok d) :
    d.Valid := by
  unfold inZone at h
  split_ifs at h
  · rwa [← Except.ok.inj h]
  · cases hlocal : clock.zone with
    | fixed offset =>
      rw [hlocal] at h hzone
      rw [← Except.ok.inj h]
      exact { he with offset := fun o ho => Option.some.inj ho ▸ hzone }
    | «local» rules =>
      rw [hlocal] at h
      exact Zone.Rules.valid_of_place h

theorem valid_of_shownAt (hzone : clock.zone.Bounded) {instant : Int} (h : clock.shownAt instant = .ok d) :
    d.Valid := by
  unfold shownAt at h
  cases hlocal : clock.zone with
  | fixed offset =>
    simp only [hlocal] at h
    rw [hlocal] at hzone
    split at h
    · next hd =>
      obtain rfl := Except.ok.inj h
      exact DateTime.valid_of_ofClock (fun o ho => Option.some.inj ho ▸ hzone) hd
    · cases h
  | «local» rules =>
    simp only [hlocal] at h
    obtain ⟨e, again, -, hplace⟩ := Zone.Rules.place_of_shownAt h
    exact Zone.Rules.valid_of_place hplace

theorem valid_of_ofSeconds (hzone : clock.zone.Bounded) {value : Value} (h : clock.ofSeconds value = .ok d) :
    d.Valid := by
  obtain ⟨micros, -, hat⟩ := at_of_ofSeconds h
  exact valid_of_shownAt hzone (shownAt_of_at hat)

theorem valid_of_ofKeyword (hzone : clock.zone.Bounded) {word : Keyword} (h : clock.ofKeyword word = .ok d) :
    d.Valid := by
  obtain ⟨now, hnow, rfl | ⟨date, hdate, hplaced⟩⟩ := ofKeyword_cases h
  · exact valid_of_shownAt hzone hnow
  · exact valid_of_inZone hzone (.midnight (Date.valid_of_add hdate) (by simp)) hplaced

/-- Every way of reading a date and time gives one that exists. -/
theorem valid_of_reading {read : Text → Option DateTime} (hread : read ∈ Iso.read? :: Format.all.map Format.read?)
    {t : Text} (h : read t = some d) : d.Valid := by
  rcases List.mem_cons.mp hread with rfl | hread
  · exact Iso.valid_of_read h
  · obtain ⟨format, -, rfl⟩ := List.mem_map.mp hread
    exact Format.valid_of_read h

theorem valid_of_calendar (hzone : clock.zone.Bounded) {t : Text} (h : clock.calendar? t = some (.ok d)) :
    d.Valid := by
  obtain ⟨read, hread, e, he, hplaced, -⟩ := exists_of_calendar h
  exact valid_of_inZone hzone (valid_of_reading hread he) hplaced

theorem valid_of_read (hzone : clock.zone.Bounded) {t : Text} (h : clock.read t = .ok d) : d.Valid := by
  simp only [read] at h
  split_ifs at h
  · split at h
    · exact valid_of_ofSeconds hzone h
    · cases h
  · split at h
    · exact valid_of_ofKeyword hzone (mapError_eq_ok.mp h)
    · split at h
      · next outcome hcalendar =>
        rw [mapError_eq_ok.mp h] at hcalendar
        exact valid_of_calendar hzone hcalendar
      · cases h

/-- Every instant that a clock makes of a value exists, if a date and time that is given does. -/
theorem valid_of_instantOf (hzone : clock.zone.Bounded) {value : Value}
    (hvalue : ∀ e, value = .datetime e → e.Valid) (h : clock.instantOf value = .ok d) : d.Valid := by
  unfold instantOf at h
  split at h
  · exact valid_of_inZone hzone (hvalue _ rfl) (mapError_eq_ok.mp h)
  · simp at h
  · exact valid_of_ofSeconds hzone h
  · exact valid_of_ofSeconds hzone h
  · exact valid_of_read hzone h
  · simp at h
  · simp at h

end Clock

end FileSieve
