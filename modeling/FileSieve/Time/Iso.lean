import FileSieve.Number.Reading
import FileSieve.Time.DateTime

/-!
# Dates and times of ISO 8601

A date by month and day or by week and weekday, with hyphens or without, and behind one code point of any
kind perhaps a time of day with a fraction and an offset from UTC.

Where the date ends follows from its form. A time is read two digits at a time; if an offset follows, one
code point too many in front of it is passed over, if it is one of ASCII. A NUL ends a time like the end of the text.
-/

namespace FileSieve.Iso

/-- Exactly `count` digits at the front of a text as a number, and the rest. -/
def digits? (count : Nat) (t : Text) : Option (Nat × Text) :=
  let digits := t.take count
  if digits.length = count && digits.all CodePoint.isDigit then some (Numeral.value digits, t.drop count) else none

/-- The text behind a code point that is expected in front. -/
def expect? (c : CodePoint) : Text → Option Text
  | d :: rest => if d = c then some rest else none
  | [] => none

/-- Whether a code point stands at a place. -/
def hasAt (t : Text) (i : Nat) (c : CodePoint) : Bool :=
  match t[i]? with
  | some d => d == c
  | none => false

/-- Whether nothing follows. -/
def isEnd : Text → Bool
  | [] => true
  | c :: _ => c.val = 0

/-- The date of a day of a week of a year; the weeks of a year are numbered from the one with its first
Thursday. -/
def weekDate? (year week day : Nat) : Option Date :=
  let last := if Date.hasLongWeeks year then 53 else 52
  if year < 1 || week < 1 || last < week || day < 1 || 7 < day then none
  else
    let number := Date.firstMonday year + ((week - 1) * 7 + (day - 1) : Nat)
    if number < 1 || (Date.maxDayNumber : Int) < number then none else some (Date.ofDayNumber number.toNat)

/-- The date that a whole text is. -/
def date? (t : Text) : Option Date := do
  let (year, t) ← digits? 4 t
  let hyphens := hasAt t 0 '-'
  let t := if hyphens then t.drop 1 else t
  if hasAt t 0 'W' then
    let (week, t) ← digits? 2 (t.drop 1)
    if t.isEmpty then weekDate? year week 1
    else
      let t ← if hyphens then expect? '-' t else some t
      let (day, t) ← digits? 1 t
      if t.isEmpty then weekDate? year week day else none
  else
    let (month, t) ← digits? 2 t
    let t ← if hyphens then expect? '-' t else some t
    let (day, t) ← digits? 2 t
    if t.isEmpty then (Date.of year month day).toOption else none

/-- Where the date ends in a text of at least seven code points. Digits behind a week without hyphens
come in pairs when they are of a time, so an odd one among them is a weekday; behind a week with
hyphens two digits are of a time. -/
def dateLength (t : Text) : Nat :=
  if t.length = 7 then 7
  else if hasAt t 4 '-' then
    if hasAt t 5 'W' then
      if hasAt t 8 '-' then (if (t[10]?.map CodePoint.isDigit).getD false then 8 else 10) else 8
    else 10
  else if hasAt t 4 'W' then
    let stop := 7 + ((t.drop 7).takeWhile CodePoint.isDigit).length
    if stop < 9 then stop else if stop % 2 = 0 then 7 else 8
  else 8

/-- A time of day, and whether nothing was left behind it. -/
structure Reading where
  /-- Hours, minutes and seconds, those that are there. -/
  parts : List Nat
  /-- Microseconds. -/
  micros : Nat := 0
  /-- Whether nothing was left. -/
  complete : Bool := true
  deriving Repr

/-- The fraction of a second that a text is: up to six digits count, and more are passed over. -/
def fraction? (parts : List Nat) (t : Text) : Option Reading := do
  let count := min 6 t.length
  let (n, rest) ← digits? count t
  let rest := rest.dropWhile CodePoint.isDigit
  return { parts, micros := n * Nat.pow 10 (6 - count), complete := isEnd rest }

/-- The time of a text behind the `parts` that have been read, at most `left` more; `colons` says whether colons
stand between them, once that is known. -/
def clock? : (left : Nat) → (colons : Option Bool) → (parts : List Nat) → Text → Option Reading
  | 0, _, parts, t => fraction? parts t
  | left + 1, colons, parts, t => do
    let (n, rest) ← digits? 2 t
    let parts := parts ++ [n]
    match rest with
    | [] => return { parts }
    | [c] => if c.isAscii then return { parts, complete := c.val = 0 } else none
    | c :: more =>
      let colons := colons.getD (c = ':')
      if colons && c = ':' then clock? left (some colons) parts more
      else if c = '.' || c = ',' then fraction? parts more
      else if !colons then clock? left (some colons) parts rest
      else none

/-- Whether a code point begins an offset. -/
def beginsOffset (c : CodePoint) : Bool :=
  c = '+' || c = '-' || c = 'Z'

/-- The seconds of hours, minutes and seconds. -/
def Reading.seconds (r : Reading) : Nat :=
  (r.parts.getD 0 0 * 60 + r.parts.getD 1 0) * 60 + r.parts.getD 2 0

/-- The offset that a text is; one of less than a second is none. -/
def offset? : Text → Option Offset
  | [] => none
  | sign :: rest =>
    if sign = 'Z' then (if isEnd rest then some 0 else none)
    else do
      let r ← clock? 3 none [] rest
      if !r.complete then none
      else
        let n := r.seconds * DateTime.perSecond + r.micros
        if r.seconds = 0 then some 0
        else if n < DateTime.perDay then some (if sign = '-' then -n else n)
        else none

/-- The time of day and the offset that a text is, at a date. -/
def timed? (date : Date) (t : Text) : Option DateTime := do
  let r ← clock? 3 none [] (t.takeWhile fun c => !beginsOffset c)
  let zone := t.dropWhile fun c => !beginsOffset c
  let offset ← if zone.isEmpty then (if r.complete then some none else none) else (offset? zone).map some
  let hour := r.parts.getD 0 0
  let minute := r.parts.getD 1 0
  let second := r.parts.getD 2 0
  if 24 ≤ hour || 60 ≤ minute || 60 ≤ second then none
  else some { date, hour, minute, second, microsecond := r.micros, offset }

/-- A surrogate can stand only between date and time; there it is as good as any other code point. -/
def withoutSurrogate (t : Text) : Text :=
  match [7, 8, 10].find? fun i => (t[i]?.map CodePoint.isSurrogate).getD false with
  | some i => t.set i 'T'
  | none => t

/-- The date and time that a text is. -/
def read? (t : Text) : Option DateTime :=
  let t := withoutSurrogate t
  if t.length < 7 || t.any CodePoint.isSurrogate then none
  else do
    let date ← date? (t.take (dateLength t))
    match t.drop (dateLength t) with
    | [] => return { date }
    | _ :: time => timed? date time

end FileSieve.Iso
