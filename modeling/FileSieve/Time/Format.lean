import FileSieve.Number.Reading
import FileSieve.Text.Blank
import FileSieve.Time.DateTime

/-!
# Dates and times by a format

A format is a sequence of fields with what stands between them. A field is one or two digits, the year four;
they may be digits of any script, except that a first digit that a field restricts is ASCII. Where a
format has a space, a text may have any white space.
-/

namespace FileSieve

/-- A field of a date or time. -/
inductive Field
  /-- The day of the month. -/
  | day
  /-- The month. -/
  | month
  /-- The year. -/
  | year
  /-- The hour. -/
  | hour
  /-- The minute. -/
  | minute
  /-- The second. -/
  | second
  deriving DecidableEq, Repr

/-- A part of a format. -/
inductive Format.Part
  /-- A field. -/
  | field (f : Field)
  /-- A code point that stands for itself. -/
  | literal (c : CodePoint)
  /-- White space. -/
  | blank
  deriving DecidableEq, Repr

/-- A format. -/
abbrev Format := List Format.Part

namespace Field

/-- The letter of a field in a written format. -/
def letter : Field → CodePoint
  | .day => 'd'
  | .month => 'm'
  | .year => 'Y'
  | .hour => 'H'
  | .minute => 'M'
  | .second => 'S'

/-- The value of a digit of any script. -/
def digit? (c : CodePoint) : Option Nat :=
  c.decimalValue?

/-- The numbers of two digits that a field can be, the first digit being ASCII: the least first digit and the
greatest number. -/
def two : Field → Nat
  | .day => 31
  | .month => 12
  | .year => 0
  | .hour => 23
  | .minute => 59
  | .second => 61

/-- The number of two digits, if a field can be that. The last digit is ASCII too where the greatest number
restricts it. -/
def ofTwo? (f : Field) (a b : CodePoint) : Option Nat := do
  let y ← digit? b
  let restricted := match f with
    | .day => b.isDigit || (a = '1' || a = '2')
    | .month => b.isDigit
    | .hour => b.isDigit || (a = '0' || a = '1')
    | .minute => true
    | .second => b.isDigit || a ≠ '6'
    | .year => false
  let n := a.digitValue * 10 + y
  if a.isDigit && restricted && n ≤ f.two && (n ≠ 0 || (f ≠ .day && f ≠ .month)) then some n else none

/-- The number of one digit, if a field can be that: a day and a month are ASCII and not zero. -/
def ofOne? (f : Field) (a : CodePoint) : Option Nat :=
  match f with
  | .day | .month => if a.isDigit && a.digitValue ≠ 0 then some a.digitValue else none
  | _ => digit? a

/-- The year of four digits. -/
def yearAt? : Text → Option (Nat × Text)
  | a :: b :: c :: d :: rest => do
    let a ← digit? a
    let b ← digit? b
    let c ← digit? c
    let d ← digit? d
    return (((a * 10 + b) * 10 + c) * 10 + d, rest)
  | _ => none

/-- A field at the front of a text, of two digits where it can be, and the rest. -/
def read? (f : Field) (t : Text) : Option (Nat × Text) :=
  match f, t with
  | .year, t => yearAt? t
  | f, a :: b :: rest =>
    match f.ofTwo? a b with
    | some n => some (n, rest)
    | none => (f.ofOne? a).map fun n => (n, b :: rest)
  | f, [a] => (f.ofOne? a).map fun n => (n, [])
  | _, [] => none

end Field

namespace Format

/-- The written form of a format. -/
def text (format : Format) : Text :=
  format.flatMap fun piece =>
    match piece with
    | .field f => ['%', f.letter]
    | .literal c => [c]
    | .blank => [' ']

/-- The fields of a text that has a format, with their numbers. -/
def fields? : Format → Text → Option (List (Field × Nat))
  | [], t => if t.isEmpty then some [] else none
  | .literal c :: format, t =>
    match t with
    | d :: rest => if d = c then fields? format rest else none
    | [] => none
  | .blank :: format, t =>
    if (t.head?.map CodePoint.isBlank).getD false then fields? format (t.dropWhile CodePoint.isBlank) else none
  | .field f :: format, t => do
    let (n, rest) ← f.read? t
    return (f, n) :: (← fields? format rest)

/-- The date and time of a text that has a format, if there is one. -/
def read? (format : Format) (t : Text) : Option DateTime := do
  let fields ← fields? format t
  let part (f : Field) : Nat := (fields.lookup f).getD 0
  let date ← (Date.of (part .year) (part .month) (part .day)).toOption
  if 60 ≤ part .second then none
  else some { date, hour := part .hour, minute := part .minute, second := part .second }

/-- A day first with points, a year first with slashes, and a month first with slashes. -/
def dates : List Format :=
  [[.field .day, .literal '.', .field .month, .literal '.', .field .year],
    [.field .year, .literal '/', .field .month, .literal '/', .field .day],
    [.field .month, .literal '/', .field .day, .literal '/', .field .year]]

/-- Nothing, hours and minutes, and seconds too. -/
def times : List Format :=
  [[], [.blank, .field .hour, .literal ':', .field .minute],
    [.blank, .field .hour, .literal ':', .field .minute, .literal ':', .field .second]]

/-- The formats that are read, in their order. -/
def all : List Format :=
  dates.flatMap fun date => times.map fun time => date ++ time

end Format

end FileSieve
