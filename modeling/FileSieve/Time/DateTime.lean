import FileSieve.Time.Date

/-!
# Dates with a time of day

A date, a time of day to the microsecond, and perhaps how far the clock is ahead of UTC. With that offset it
names an instant; without it, it is naive.
-/

namespace FileSieve

/-- How far a clock is ahead of UTC, in microseconds; less than a day either way. -/
abbrev Offset := Int

/-- A date with a time of day. -/
structure DateTime where
  /-- The date. -/
  date : Date
  /-- The hour, below 24. -/
  hour : Nat := 0
  /-- The minute, below 60. -/
  minute : Nat := 0
  /-- The second, below 60. -/
  second : Nat := 0
  /-- The microsecond, below a million. -/
  microsecond : Nat := 0
  /-- How far its clock is ahead of UTC; none when it is naive. -/
  offset : Option Offset := none
  deriving DecidableEq, Repr, Inhabited

namespace DateTime

/-- Microseconds in a second. -/
def perSecond : Nat := 1000000

/-- Microseconds in a day. -/
def perDay : Nat := 86400 * perSecond

/-- The microseconds since midnight. -/
def timeOfDay (d : DateTime) : Nat :=
  ((d.hour * 60 + d.minute) * 60 + d.second) * perSecond + d.microsecond

/-- The microseconds on its own clock since the midnight before the calendar begins. -/
def clock (d : DateTime) : Nat :=
  d.date.dayNumber * perDay + d.timeOfDay

/-- The microseconds at UTC since the midnight before the calendar begins; a naive one is taken as UTC. -/
def instant (d : DateTime) : Int :=
  (d.clock : Int) - d.offset.getD 0

/-- The date and time on a clock that shows `clock` microseconds, if they are within the calendar. -/
def ofClock? (clock : Int) (offset : Option Offset) : Option DateTime :=
  let day := clock / perDay
  if day < 1 || (Date.maxDayNumber : Int) < day then none
  else
    let t := (clock % perDay).toNat
    some {
      date := Date.ofDayNumber day.toNat
      hour := t / (3600 * perSecond)
      minute := t / (60 * perSecond) % 60
      second := t / perSecond % 60
      microsecond := t % perSecond
      offset := offset }

/-- The midnight that begins 1970-01-01 at UTC, on the scale of `instant`. -/
def epoch : Int := 719163 * perDay

/-- Whether it names an instant. -/
def isAware (d : DateTime) : Bool :=
  d.offset.isSome

/-- Hours and minutes, seconds if there are any, and a fraction if there is one. -/
def offsetText (offset : Offset) : Text :=
  let n := offset.natAbs
  let sign : Text := if offset < 0 then "-" else "+"
  let micros := n % perSecond
  let seconds := n / perSecond % 60
  sign ++ Text.padded 2 (n / (3600 * perSecond)) ++ (":" : Text) ++ Text.padded 2 (n / (60 * perSecond) % 60)
    ++ (if seconds = 0 && micros = 0 then [] else (":" : Text) ++ Text.padded 2 seconds)
    ++ (if micros = 0 then [] else ("." : Text) ++ Text.padded 6 micros)

/-- The time of day; a fraction only when it is not zero. -/
def timeText (d : DateTime) : Text :=
  Text.padded 2 d.hour ++ (":" : Text) ++ Text.padded 2 d.minute ++ (":" : Text) ++ Text.padded 2 d.second
    ++ (if d.microsecond = 0 then [] else ("." : Text) ++ Text.padded 6 d.microsecond)

/-- Date, `separator`, time of day and offset. -/
def textWith (separator : Text) (d : DateTime) : Text :=
  d.date.text ++ separator ++ d.timeText ++ (match d.offset with | none => [] | some offset => offsetText offset)

/-- The form of ISO 8601. -/
def iso (d : DateTime) : Text :=
  d.textWith "T"

/-- The form for people, with a space between date and time. -/
def text (d : DateTime) : Text :=
  d.textWith " "

/-- An offset as a span: its days, seconds and microseconds, those that are not zero. -/
def spanText (offset : Offset) : Text :=
  let days := offset / perDay
  let rest := (offset % perDay).toNat
  let seconds := rest / perSecond
  let micros := rest % perSecond
  let part (name : Text) (n : Int) : List Text := if n = 0 then [] else [name ++ ("=" : Text) ++ Text.ofInt n]
  let parts := part "days" days ++ part "seconds" seconds ++ part "microseconds" micros
  "datetime.timedelta(" ++ (if parts.isEmpty then ("0" : Text) else Text.join ", " parts) ++ ")"

/-- Why numbers are no time of day with an offset. -/
inductive Fault
  /-- The hour is not below 24. -/
  | hour
  /-- The minute is not below 60. -/
  | minute
  /-- The second is not below 60. -/
  | second
  /-- The offset is not less than a day either way. -/
  | offset (span : Offset)
  deriving DecidableEq, Repr

/-- The wording of a fault. -/
def Fault.text : Fault → Text
  | .hour => "hour must be in 0..23"
  | .minute => "minute must be in 0..59"
  | .second => "second must be in 0..59"
  | .offset span =>
    "offset must be a timedelta strictly between -timedelta(hours=24) and timedelta(hours=24), not "
      ++ spanText span

/-- An offset, if it is less than a day either way. -/
def checkOffset (offset : Offset) : Except Fault Offset :=
  if offset.natAbs < perDay then .ok offset else .error (.offset offset)

/-- The date and time of a date, if the other numbers are a time of day. -/
def of (date : Date) (hour minute second microsecond : Nat) (offset : Option Offset) : Except Fault DateTime :=
  if 24 ≤ hour then .error .hour
  else if 60 ≤ minute then .error .minute
  else if 60 ≤ second then .error .second
  else .ok { date, hour, minute, second, microsecond, offset }

end DateTime

end FileSieve
