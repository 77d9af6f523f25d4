import FileSieve.Proofs.Time.Valid

/-!
# Days and their numbers

A day and its number are the same thing: the date of a number has the number again (`Date.dayNumber_ofDayNumber`), and the
day that has the number of a date is the date (`Date.ofDayNumber_dayNumber`). The cycles, centuries, groups of years and
years that are counted off a number of days are those that are counted before the year, and the same holds of the months
of the year. So a clock that shows some microseconds shows exactly these (`DateTime.clock_of_ofClock`), and a date and time
is what a clock shows at its microseconds (`DateTime.ofClock_clock`).
-/

namespace FileSieve

namespace Date

/-! ### Months -/

theorem le_monthAndDay (lengths : List Nat) (month n : Nat) : month ≤ (monthAndDay lengths month n).1 := by
  fun_induction monthAndDay lengths month n with
  | case1 month n => exact Nat.le_refl month
  | case2 length lengths month n hlt => exact Nat.le_refl month
  | case3 length lengths month n hle ih => exact Nat.le_of_succ_le ih

/-- The days of the months before and the day of the month are the day that they were counted off. -/
theorem sum_monthAndDay (lengths : List Nat) (month n days : Nat) :
    ((lengths.take ((monthAndDay lengths month n).1 - month)).foldl (fun days length => days + length) days) +
      (monthAndDay lengths month n).2 = days + n + 1 := by
  fun_induction monthAndDay lengths month n generalizing days with
  | case1 month n =>
    rw [List.take_nil]
    rfl
  | case2 length lengths month n hlt =>
    rw [Nat.sub_self]
    rfl
  | case3 length lengths month n hle ih =>
    have hmonth := le_monthAndDay lengths (month + 1) (n - length)
    have hsucc : (monthAndDay lengths (month + 1) (n - length)).1 - month =
        (monthAndDay lengths (month + 1) (n - length)).1 - (month + 1) + 1 := by omega
    rw [hsucc, List.take_succ_cons, List.foldl_cons, ih]
    omega

theorem foldl_days (lengths : List Nat) (days : Nat) :
    lengths.foldl (fun days length => days + length) days =
      days + lengths.foldl (fun days length => days + length) 0 := by
  induction lengths generalizing days with
  | nil => rfl
  | cons length lengths ih =>
    rw [List.foldl_cons, List.foldl_cons, ih, ih (0 + length)]
    omega

/-- The days before a month and those of the month are no more than all of them. -/
theorem foldl_take_add_le (lengths : List Nat) (months : Nat) :
    (lengths.take months).foldl (fun days length => days + length) 0 + lengths.getD months 0 ≤
      lengths.foldl (fun days length => days + length) 0 := by
  induction lengths generalizing months with
  | nil =>
    rw [List.take_nil]
    exact Nat.le_refl 0
  | cons length lengths ih =>
    cases months with
    | zero =>
      rw [List.take_zero, List.foldl_nil, List.getD_cons_zero, List.foldl_cons, foldl_days]
      omega
    | succ months =>
      have hrest := ih months
      rw [List.take_succ_cons, List.foldl_cons, List.getD_cons_succ, List.foldl_cons, foldl_days, foldl_days lengths]
      omega

/-- And a day of a month is counted off behind the months before. -/
theorem monthAndDay_before {lengths : List Nat} (first : Nat) {months day : Nat} (hmonths : months < lengths.length)
    (hday : 1 ≤ day) (hle : day ≤ lengths.getD months 0) :
    monthAndDay lengths first ((lengths.take months).foldl (fun days length => days + length) 0 + day - 1) =
      (first + months, day) := by
  induction lengths generalizing first months with
  | nil => exact absurd hmonths (Nat.not_lt_zero _)
  | cons length lengths ih =>
    cases months with
    | zero =>
      rw [List.getD_cons_zero] at hle
      rw [List.take_zero, List.foldl_nil, monthAndDay, if_pos (by omega), Nat.zero_add, Nat.sub_add_cancel hday]
      rfl
    | succ months =>
      rw [List.getD_cons_succ] at hle
      rw [List.take_succ_cons, List.foldl_cons, foldl_days, monthAndDay, if_neg (by omega)]
      have hrest : ∀ n, 0 + length + n + day - 1 - length = n + day - 1 := by omega
      rw [hrest, ih (first + 1) (Nat.lt_of_succ_lt_succ hmonths) hle, Nat.add_assoc, Nat.add_comm 1]

/-! ### Years -/

/-- The days before a year are those of the cycles, centuries, groups of four years and years that it is counted off
by. -/
theorem daysBeforeYear_parts {cycles centuries groups years : Nat} (hcenturies : centuries ≤ 3) (hgroups : groups ≤ 24)
    (hyears : years ≤ 3) :
    daysBeforeYear (cycles * 400 + centuries * 100 + groups * 4 + years + 1) =
      cycles * 146097 + centuries * 36524 + groups * 1461 + years * 365 := by
  simp only [daysBeforeYear, Nat.add_sub_cancel]
  have h4 : (cycles * 400 + centuries * 100 + groups * 4 + years) / 4 = cycles * 100 + centuries * 25 + groups := by omega
  have h100 : (cycles * 400 + centuries * 100 + groups * 4 + years) / 100 = cycles * 4 + centuries := by omega
  have h400 : (cycles * 400 + centuries * 100 + groups * 4 + years) / 400 = cycles := by omega
  rw [h4, h100, h400]
  omega

/-- The date of a day has the number of the day. -/
theorem dayNumber_ofDayNumber {n : Nat} (h : 1 ≤ n) : (ofDayNumber n).dayNumber = n := by
  simp only [ofDayNumber, dayNumber, daysBeforeMonth]
  rw [daysBeforeYear_parts (Nat.min_le_right _ _) (by omega) (Nat.min_le_right _ _), Nat.add_assoc, sum_monthAndDay]
  omega

/-- And these are what a day of the year is counted off by: only a leap year, which is the last of its group, has a day
365, counted from zero. -/
theorem yearAndDay_parts {cycles centuries groups years day m m1 m2 m3 : Nat} (hcenturies : centuries ≤ 3)
    (hgroups : groups ≤ 24) (hyears : years ≤ 3)
    (hday : day < if isLeap (cycles * 400 + centuries * 100 + groups * 4 + years + 1) then 366 else 365)
    (hm : m = cycles * 146097 + m1) (hm1 : m1 = centuries * 36524 + m2) (hm2 : m2 = groups * 1461 + m3)
    (hm3 : m3 = years * 365 + day) :
    m / 146097 = cycles ∧ m % 146097 = m1 ∧ min (m1 / 36524) 3 = centuries ∧ m2 / 1461 = groups ∧ m2 % 1461 = m3 ∧
      min (m3 / 365) 3 = years := by
  have hlast : day ≤ 365 ∧ (day = 365 → years = 3 ∧ (groups = 24 → centuries = 3)) := by
    split_ifs at hday with hleap
    · simp only [isLeap, Bool.and_eq_true, Bool.or_eq_true, beq_iff_eq, bne_iff_ne] at hleap
      omega
    · omega
  clear hday
  have hlt3 : m3 < 1461 := by omega
  have hlt2 : m2 ≤ 36524 ∧ (m2 = 36524 → centuries = 3) := by omega
  have hlt1 : m1 < 146097 := by omega
  refine ⟨by omega, by omega, by omega, by omega, by omega, by omega⟩

/-- A date is a day of its year. -/
theorem Valid.daysBeforeMonth_lt {d : Date} (h : d.Valid) :
    daysBeforeMonth d.year d.month + d.day - 1 < if isLeap d.year then 366 else 365 := by
  have hsum : (monthLengths (isLeap d.year)).foldl (fun days length => days + length) 0 =
      if isLeap d.year then 366 else 365 := by
    cases isLeap d.year <;> rfl
  have hmonth := foldl_take_add_le (monthLengths (isLeap d.year)) (d.month - 1)
  rw [hsum] at hmonth
  have hday : d.day ≤ (monthLengths (isLeap d.year)).getD (d.month - 1) 0 := h.day.2
  have hfirst := h.day.1
  rw [daysBeforeMonth]
  omega

/-- So the day that has the number of a date is the date. -/
theorem ofDayNumber_dayNumber {d : Date} (h : d.Valid) : ofDayNumber d.dayNumber = d := by
  obtain ⟨hyear, hmonth, hday⟩ := h
  obtain ⟨cycles, centuries, groups, years, hcenturies, hgroups, hyears, hparts⟩ :
      ∃ cycles centuries groups years, centuries ≤ 3 ∧ groups ≤ 24 ∧ years ≤ 3 ∧
        cycles * 400 + centuries * 100 + groups * 4 + years + 1 = d.year :=
    ⟨(d.year - 1) / 400, (d.year - 1) % 400 / 100, (d.year - 1) % 100 / 4, (d.year - 1) % 4, by omega, by omega, by omega,
      by omega⟩
  have hbefore := Valid.daysBeforeMonth_lt ⟨hyear, hmonth, hday⟩
  have hnumber : d.dayNumber - 1 = cycles * 146097 + (centuries * 36524 + (groups * 1461 +
      (years * 365 + (daysBeforeMonth d.year d.month + d.day - 1)))) := by
    rw [dayNumber, ← hparts, daysBeforeYear_parts hcenturies hgroups hyears]
    omega
  obtain ⟨h1, h2, h3, h4, h5, h6⟩ :=
    yearAndDay_parts hcenturies hgroups hyears (by rwa [hparts]) rfl rfl rfl rfl
  have hcounted : monthAndDay (monthLengths (isLeap d.year)) 1 (daysBeforeMonth d.year d.month + d.day - 1) =
      (d.month, d.day) := by
    have hlength : (monthLengths (isLeap d.year)).length = 12 := by cases isLeap d.year <;> rfl
    rw [daysBeforeMonth, monthAndDay_before 1 (by omega) hday.1 hday.2, Nat.add_sub_cancel' hmonth.1]
  simp only [ofDayNumber, hnumber, h1, h2, h3, Nat.add_sub_cancel_left, h4, h5, h6, hparts, hcounted]

/-- The days of the dates are those of the calendar. -/
theorem Valid.dayNumber_bounds {d : Date} (h : d.Valid) : 1 ≤ d.dayNumber ∧ d.dayNumber ≤ maxDayNumber := by
  have hbefore := h.daysBeforeMonth_lt
  have hyear := h.year
  have hday := h.day.1
  rw [dayNumber, daysBeforeYear]
  unfold maxDayNumber
  unfold maxYear at hyear
  split_ifs at hbefore with hleap
  · simp only [isLeap, Bool.and_eq_true, beq_iff_eq] at hleap
    omega
  · omega

end Date

/-! ### Clocks -/

namespace DateTime

variable {micros : Int} {offset : Option Offset} {d : DateTime}

/-- A clock shows the date of the day that its microseconds are in. -/
theorem dayNumber_of_ofClock (h : ofClock? micros offset = some d) : (d.date.dayNumber : Int) = micros / perDay := by
  simp only [ofClock?] at h
  split_ifs at h with hout
  simp only [Bool.or_eq_true, decide_eq_true_eq, not_or] at hout
  obtain rfl := Option.some.inj h
  rw [Date.dayNumber_ofDayNumber (by omega)]
  omega

/-- And the time of day that they are behind its midnight. -/
theorem timeOfDay_of_ofClock (h : ofClock? micros offset = some d) : (d.timeOfDay : Int) = micros % perDay := by
  simp only [ofClock?] at h
  split_ifs at h
  obtain rfl := Option.some.inj h
  simp only [timeOfDay, perDay, perSecond]
  omega

/-- So it shows exactly these. -/
theorem clock_of_ofClock (h : ofClock? micros offset = some d) : (d.clock : Int) = micros := by
  rw [clock, Int.natCast_add, Int.natCast_mul, dayNumber_of_ofClock h, timeOfDay_of_ofClock h]
  exact Int.ediv_mul_add_emod micros perDay

theorem offset_of_ofClock (h : ofClock? micros offset = some d) : d.offset = offset := by
  simp only [ofClock?] at h
  split_ifs at h
  rw [← Option.some.inj h]

/-- What a clock shows is within the calendar, -/
theorem within_of_ofClock (h : ofClock? micros offset = some d) :
    perDay ≤ micros ∧ micros < (Date.maxDayNumber + 1) * perDay := by
  simp only [ofClock?] at h
  split_ifs at h with hout
  simp only [Bool.or_eq_true, decide_eq_true_eq, not_or] at hout
  simp only [perDay, perSecond, Date.maxDayNumber] at *
  omega

/-- and what is within it is shown. -/
theorem exists_ofClock (offset : Option Offset) (hmin : perDay ≤ micros) (hmax : micros < (Date.maxDayNumber + 1) * perDay) :
    ∃ d, ofClock? micros offset = some d := by
  have hday : ¬(micros / perDay < 1 ∨ (Date.maxDayNumber : Int) < micros / perDay) := by
    simp only [perDay, perSecond, Date.maxDayNumber] at *
    omega
  simp only [ofClock?, Bool.or_eq_true, decide_eq_true_eq, if_neg hday]
  exact ⟨_, rfl⟩

/-- A date and time is what a clock shows at its microseconds. -/
theorem ofClock_clock (h : d.Valid) : ofClock? d.clock d.offset = some d := by
  obtain ⟨hdate, hhour, hminute, hsecond, hmicrosecond, -⟩ := h
  obtain ⟨hmin, hmax⟩ := hdate.dayNumber_bounds
  have htime : d.timeOfDay < perDay := by
    simp only [timeOfDay, perDay, perSecond] at *
    omega
  have hday : (d.clock : Int) / perDay = d.date.dayNumber := by
    simp only [clock, perDay, perSecond] at *
    omega
  have hrest : ((d.clock : Int) % perDay).toNat = d.timeOfDay := by
    simp only [clock, perDay, perSecond] at *
    omega
  have hin : ¬((d.date.dayNumber : Int) < 1 ∨ (Date.maxDayNumber : Int) < d.date.dayNumber) := by omega
  obtain ⟨h1, h2, h3, h4⟩ : d.timeOfDay / (3600 * perSecond) = d.hour ∧ d.timeOfDay / (60 * perSecond) % 60 = d.minute ∧
      d.timeOfDay / perSecond % 60 = d.second ∧ d.timeOfDay % perSecond = d.microsecond := by
    simp only [timeOfDay, perSecond] at *
    omega
  simp only [ofClock?, hday, hrest, Bool.or_eq_true, decide_eq_true_eq, if_neg hin, Int.toNat_natCast,
    Date.ofDayNumber_dayNumber hdate, h1, h2, h3, h4]

/-- The beginning of 1970 at UTC. -/
theorem epoch_eq : epoch = instant { date := ⟨1970, 1, 1⟩, offset := some 0 } := by
  decide

end DateTime

end FileSieve
