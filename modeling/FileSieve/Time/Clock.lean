import FileSieve.Number.Shortest
import FileSieve.Text.Case
import FileSieve.Time.Format
import FileSieve.Time.Iso
import FileSieve.Time.Spacing
import FileSieve.Time.Zone
import FileSieve.Value.Equality
import FileSieve.Value.Shown

/-!
# Reading instants by a clock

A clock shows an instant in a zone. By it texts, numbers and naive dates and times become instants: a number
counts seconds from the beginning of 1970 at UTC, a word such as `today` stands for a time near the one that the
clock shows, and what names no zone is in the clock's.
-/

namespace FileSieve

/-- A clock. -/
structure Clock where
  /-- Where it stands. -/
  zone : Zone := .fixed 0
  /-- The instant that it shows, in microseconds. -/
  now : Int := DateTime.epoch

namespace Clock

/-- Why there is no instant. -/
inductive Fault
  /-- The text is none. -/
  | unreadable (text : Text)
  /-- The number, in its plain form, is outside of the calendar. -/
  | outOfRange (shown : Text)
  /-- The value cannot be worked with. -/
  | misuse (m : Misuse)
  deriving DecidableEq, Repr

/-- The wording of a fault. -/
def Fault.message : Fault → Text
  | .unreadable text => "Given text cannot be parsed as a date: " ++ text.quoted
  | .outOfRange shown => "Given number is not a valid Unix timestamp: " ++ shown
  | .misuse m => m.message

/-- A date and time as an instant: in the clock's zone, unless it names its own. -/
def inZone (clock : Clock) (d : DateTime) : Except Misuse DateTime :=
  if d.isAware then .ok d
  else match clock.zone with
    | .fixed offset => .ok { d with offset := some offset }
    | .local rules => rules.place false d

/-- The date and time that the clock shows at an instant. -/
def shownAt (clock : Clock) (instant : Int) : Except Misuse DateTime :=
  match clock.zone with
  | .fixed offset =>
    match DateTime.ofClock? (instant + offset) (some offset) with
    | some d => .ok d
    | none => .error .dateOverflow
  | .local rules => rules.shownAt instant

/-- The date and time that the clock shows at an instant, which must be within the calendar at UTC too; the local clocks
see to that themselves. -/
def at? (clock : Clock) (instant : Int) : Option DateTime :=
  match clock.zone with
  | .fixed _ => (DateTime.ofClock? instant (some 0)).bind fun _ => (clock.shownAt instant).toOption
  | .local _ => (clock.shownAt instant).toOption

/-- The microseconds of a number of seconds: the fraction is rounded to microseconds, a half to the
even one. -/
def microseconds? : Magnitude → Option Int
  | .int n => some (n * DateTime.perSecond)
  | .float (.finite negative units) =>
    let whole := Binary64.signed negative (units / Binary64.one)
    let fraction := Binary64.finite negative (units % Binary64.one)
    ((fraction.mul (.ofInt DateTime.perSecond)).nearest?).map fun micros => whole * DateTime.perSecond + micros
  | .float _ => none

/-- The plain form of a number. -/
def plain : Magnitude → Except Misuse Text
  | .int n => Int.digits n
  | .float x => .ok x.text

/-- The instant of a number of seconds; `value` is the number as it was given. -/
def ofSeconds (clock : Clock) (value : Value) : Except Fault DateTime :=
  match (value.magnitude?.bind microseconds?).bind fun micros => clock.at? (DateTime.epoch + micros) with
  | some d => .ok d
  | none =>
    match value.plain with
    | .ok shown => .error (.outOfRange shown)
    | .error m => .error (.misuse m)

/-- A word for a time. -/
inductive Keyword
  /-- The time that the clock shows. -/
  | now
  /-- The midnight before it. -/
  | today
  /-- The midnight before it. -/
  | midnight
  /-- The midnight one day before that. -/
  | yesterday
  /-- The midnight one day after that. -/
  | tomorrow
  deriving DecidableEq, Repr

namespace Keyword

/-- The words in their order. -/
def all : List Keyword :=
  [.now, .today, .midnight, .yesterday, .tomorrow]

/-- The text of a word. -/
def text : Keyword → Text
  | .now => "now"
  | .today => "today"
  | .midnight => "midnight"
  | .yesterday => "yesterday"
  | .tomorrow => "tomorrow"

/-- How many days away from the clock's date the day of a word is. -/
def days : Keyword → Int
  | .yesterday => -1
  | .tomorrow => 1
  | _ => 0

/-- The word that a text is, in either case. -/
def ofText? (t : Text) : Option Keyword :=
  all.find? fun word => word.text == t.lower

end Keyword

/-- The instant of a word. -/
def ofKeyword (clock : Clock) (word : Keyword) : Except Misuse DateTime := do
  let now ← clock.shownAt clock.now
  if word = .now then return now
  else match now.date.add? word.days with
    | some date => clock.inZone { date }
    | none => .error .dateOverflow

/-- Whether a text is a number of seconds: a sign, digits, and perhaps digits behind a point. -/
def isNumber (t : Text) : Bool :=
  let digits := (Numeral.sign t).2
  let rest := digits.dropWhile CodePoint.isDigit
  !(digits.takeWhile CodePoint.isDigit).isEmpty &&
    match rest with
    | [] => true
    | c :: decimals => c = '.' && Numeral.allDigits decimals

/-- The number of seconds that a text is. -/
def number (t : Text) : Except Misuse Value :=
  if t.contains ('.' : CodePoint) then .ok (.float (t.toBinary64?.getD .nan))
  else match t.toInt with
    | .ok n => .ok (.int n)
    | .error (.tooLong digits) => .error (.tooManyDigits digits)
    | .error .malformed => .error (.notIntegerText 10 t)

/-- What becomes of a text that is read in some way: nothing if it cannot be read so or its time is none of the clock's
zone, and then the next way is tried; but an instant beyond the calendar ends the search. -/
def settled? (clock : Clock) (read : Text → Option DateTime) (t : Text) : Option (Except Misuse DateTime) :=
  (read t).bind fun d =>
    match clock.inZone d with
    | .ok e => some (.ok e)
    | .error .dateOverflow => some (.error .dateOverflow)
    | .error _ => none

/-- The date and time that a text is, in the first way of reading it that settles the matter. -/
def calendar? (clock : Clock) (t : Text) : Option (Except Misuse DateTime) :=
  (Iso.read? :: Format.all.map Format.read?).findSome? fun read => clock.settled? read t

/-- Reads an instant. -/
def read (clock : Clock) (t : Text) : Except Fault DateTime :=
  let normal := Spacing.tidy t
  if isNumber normal then
    match number normal with
    | .ok value => clock.ofSeconds value
    | .error m => .error (.misuse m)
  else match Keyword.ofText? normal with
    | some word => (clock.ofKeyword word).mapError .misuse
    | none =>
      match clock.calendar? normal with
      | some outcome => outcome.mapError .misuse
      | none => .error (.unreadable t)

/-- A value as an instant: a date and time, a number, or a text. -/
def instantOf (clock : Clock) (value : Value) : Except Fault DateTime :=
  match value with
  | .datetime d => (clock.inZone d).mapError .misuse
  | .bool _ => .error (.misuse .boolAsTime)
  | .int _ | .float _ => clock.ofSeconds value
  | .text t => clock.read t
  | .unplaced .. => .error (.misuse .noOffset)
  | value => .error (.misuse (.notTime value.kind))

/-- What a value is compared as: its instant, or a date and time as it is if its zone cannot tell the instant. -/
def coerce (clock : Clock) (value : Value) : Except Fault Value :=
  match value with
  | .unplaced d zone => .ok (.unplaced d zone)
  | value => (clock.instantOf value).map .datetime

end Clock

end FileSieve
