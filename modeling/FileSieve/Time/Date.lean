import FileSieve.Text.Basic

/-!
# Calendar dates

Dates of the Gregorian calendar from year 1 to year 9999. Days are numbered from one at 0001-01-01, which
was a Monday.
-/

namespace FileSieve

/-- A date. -/
structure Date where
  /-- The year. -/
  year : Nat
  /-- The month, from one. -/
  month : Nat
  /-- The day of the month, from one. -/
  day : Nat
  deriving DecidableEq, Repr, Inhabited

namespace Date

/-- The last year. -/
def maxYear : Nat := 9999

/-- Whether a year has a 29th of February. -/
def isLeap (year : Nat) : Bool :=
  year % 4 == 0 && (year % 100 != 0 || year % 400 == 0)

/-- The lengths of the months of a year. -/
def monthLengths (leap : Bool) : List Nat :=
  [31, if leap then 29 else 28, 31, 30, 31, 30, 31, 31, 30, 31, 30, 31]

/-- The number of days of a month. -/
def daysInMonth (year month : Nat) : Nat :=
  (monthLengths (isLeap year)).getD (month - 1) 0

/-- Why numbers are no date. -/
inductive Fault
  /-- The year is not from 1 to 9999. -/
  | year (year : Int)
  /-- The month is not from 1 to 12. -/
  | month
  /-- The month has no such day. -/
  | day
  deriving DecidableEq, Repr

/-- The wording of a fault. -/
def Fault.text : Fault → Text
  | .year y => "year " ++ Text.ofInt y ++ " is out of range"
  | .month => "month must be in 1..12"
  | .day => "day is out of range for month"

/-- The date of a year, a month and a day, if there is one. -/
def of (year month day : Nat) : Except Fault Date :=
  if year < 1 || maxYear < year then .error (.year year)
  else if month < 1 || 12 < month then .error .month
  else if day < 1 || daysInMonth year month < day then .error .day
  else .ok ⟨year, month, day⟩

/-- The number of days before a year. -/
def daysBeforeYear (year : Nat) : Nat :=
  let y := year - 1
  y * 365 + y / 4 - y / 100 + y / 400

/-- The number of days of a year before a month. -/
def daysBeforeMonth (year month : Nat) : Nat :=
  ((monthLengths (isLeap year)).take (month - 1)).foldl (fun days length => days + length) 0

/-- The number of a date's day. -/
def dayNumber (d : Date) : Nat :=
  daysBeforeYear d.year + daysBeforeMonth d.year d.month + d.day

/-- The number of the last day. -/
def maxDayNumber : Nat := 3652059

/-- The month and the day of the month of the day `n` of a year, counted from zero; `month` is the month that
the lengths begin with. -/
def monthAndDay : (lengths : List Nat) → (month n : Nat) → Nat × Nat
  | [], month, n => (month, n + 1)
  | length :: lengths, month, n =>
    if n < length then (month, n + 1) else monthAndDay lengths (month + 1) (n - length)

/-- The date of a day by its number. Years come in cycles of 400, centuries of 100 and groups of four; the
last day of a cycle or of a group is one day more than its parts. -/
def ofDayNumber (number : Nat) : Date :=
  let n := number - 1
  let cycles := n / 146097
  let n := n % 146097
  let centuries := min (n / 36524) 3
  let n := n - centuries * 36524
  let groups := n / 1461
  let n := n % 1461
  let years := min (n / 365) 3
  let n := n - years * 365
  let year := cycles * 400 + centuries * 100 + groups * 4 + years + 1
  let (month, day) := monthAndDay (monthLengths (isLeap year)) 1 n
  ⟨year, month, day⟩

/-- The day `days` later, if it is not beyond the calendar. -/
def add? (d : Date) (days : Int) : Option Date :=
  let n := (d.dayNumber : Int) + days
  if n < 1 || (maxDayNumber : Int) < n then none else some (ofDayNumber n.toNat)

/-- The day of the week of a day by its number, Monday being zero. -/
def weekday (number : Nat) : Nat :=
  (number + 6) % 7

/-- The number of the Monday of the first week of a year, which is the week with the year's first Thursday. -/
def firstMonday (year : Nat) : Int :=
  let first := daysBeforeYear year + 1
  let day := weekday first
  if day ≤ 3 then (first : Int) - day else (first : Int) + 7 - day

/-- Whether a year has a 53rd week: it begins with a Thursday, or is a leap year that begins with a
Wednesday. -/
def hasLongWeeks (year : Nat) : Bool :=
  let day := weekday (daysBeforeYear year + 1)
  day == 3 || (day == 2 && isLeap year)

/-- A date as year, month and day with hyphens between them. -/
def text (d : Date) : Text :=
  Text.padded 4 d.year ++ ("-" : Text) ++ Text.padded 2 d.month ++ ("-" : Text) ++ Text.padded 2 d.day

end Date

end FileSieve
