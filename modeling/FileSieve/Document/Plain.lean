import FileSieve.Document.Node
import FileSieve.Time.DateTime

/-!
# What plain scalars mean

A plain scalar without a tag means the first kind of value whose form it has: a truth value, a number, no value, a
date, or else a text. An integer may be written in base two, eight, ten, sixteen, or sixty with colons between its
digits; low lines in numbers do not count.

A form may be followed by one line feed, as the last line of a text is.
-/

namespace FileSieve.Document

/-- The text without a line feed at its end, unless that is all of it. -/
def withoutLastBreak (t : Text) : Text :=
  if 1 < t.length && t.getLast?.any (· == ('\n' : CodePoint)) then t.dropLast else t

/-- The text without a sign in front. -/
def unsigned : Text → Text
  | [] => []
  | c :: rest => if c = '-' || c = '+' then rest else c :: rest

/-- The text behind a beginning, if it begins so. -/
def after? (start t : Text) : Option Text :=
  if start.isPrefixOf t then some (t.drop start.length) else none

/-! ### Numbers -/

/-- A digit or a low line. -/
def isSpacedDigit (c : CodePoint) : Bool :=
  c.isDigit || c = '_'

/-- A digit, and then digits and low lines. -/
def isSpacedNumber : Text → Bool
  | [] => false
  | c :: rest => c.isDigit && rest.all isSpacedDigit

/-- A non-empty text of a class. -/
def isRunOf (p : CodePoint → Bool) (t : Text) : Bool :=
  !t.isEmpty && t.all p

/-- A digit below sixty in base sixty. -/
def isSexagesimalDigit : Text → Bool
  | [c] => c.isDigit
  | [c, d] => c.isDigit && c.digitValue < 6 && d.isDigit
  | _ => false

/-- Digits of base sixty with colons between them, two at least; the first may be any number. -/
def isSexagesimal (t : Text) : Bool :=
  match Text.splitAtPoint ':' t with
  | first :: second :: rest => isSpacedNumber first && (second :: rest).all isSexagesimalDigit
  | _ => false

/-- Whether a text does not begin with a zero. -/
def beginsAboveZero (t : Text) : Bool :=
  t.head?.any (· != ('0' : CodePoint))

/-- The form of an integer. -/
def isInteger (t : Text) : Bool :=
  let t := unsigned t
  (after? "0b" t).any (isRunOf fun c => c = '0' || c = '1' || c = '_') ||
    (after? "0" t).any (isRunOf fun c => c.isOctalDigit || c = '_') ||
    t = ("0" : Text) ||
    (beginsAboveZero t && isSpacedNumber t) ||
    (after? "0x" t).any (isRunOf fun c => c.isHexDigit || c = '_') ||
    (beginsAboveZero t && isSexagesimal t)

/-- An exponent with its sign, or nothing. -/
def isExponent : Text → Bool
  | [] => true
  | e :: sign :: digits => (e = 'e' || e = 'E') && (sign = '-' || sign = '+') && isRunOf CodePoint.isDigit digits
  | _ => false

/-- What follows the point of a number: digits and low lines, and perhaps an exponent. -/
def isFraction (t : Text) : Bool :=
  isExponent (t.dropWhile isSpacedDigit)

/-- The parts of a text in front of its first point and behind it. -/
def atPoint? (t : Text) : Option (Text × Text) :=
  let whole := t.takeWhile (· != ('.' : CodePoint))
  match t.drop whole.length with
  | [] => none
  | _ :: rest => some (whole, rest)

/-- The form of a floating-point number. -/
def isFloat (t : Text) : Bool :=
  (atPoint? (unsigned t)).any (fun (whole, rest) =>
    (isSpacedNumber whole && isFraction rest) || (isSexagesimal whole && rest.all isSpacedDigit)) ||
    (after? "." t).any (fun rest => rest.head?.any CodePoint.isDigit && isFraction rest) ||
    ([".inf", ".Inf", ".INF"] : List Text).contains (unsigned t) ||
    ([".nan", ".NaN", ".NAN"] : List Text).contains t

/-! ### Dates and times -/

/-- An offset from UTC as it is written: ahead or not, hours and minutes. -/
structure WrittenOffset where
  /-- Whether it is behind UTC. -/
  negative : Bool
  /-- The hours. -/
  hours : Nat
  /-- The minutes. -/
  minutes : Nat
  deriving DecidableEq, Repr

/-- A time of day as it is written. -/
structure WrittenTime where
  /-- The hour. -/
  hour : Nat
  /-- The minute. -/
  minute : Nat
  /-- The second. -/
  second : Nat
  /-- The microsecond: the first six digits behind the point. -/
  microsecond : Nat
  /-- How far ahead of UTC, if it says so. -/
  offset : Option WrittenOffset
  deriving DecidableEq, Repr

/-- A date as it is written, perhaps with a time of day. -/
structure WrittenInstant where
  /-- The year. -/
  year : Nat
  /-- The month. -/
  month : Nat
  /-- The day of the month. -/
  day : Nat
  /-- Whether month and day are written with two digits each. -/
  padded : Bool
  /-- The time of day. -/
  time : Option WrittenTime
  deriving DecidableEq, Repr

/-- The digits that come first, from `least` up to `most` of them, and what follows. -/
def digits? (least most : Nat) (t : Text) : Option (Text × Text) :=
  let digits := (t.take most).takeWhile CodePoint.isDigit
  if digits.length < least then none else some (digits, t.drop digits.length)

/-- What follows the code point `c`. -/
def behind? (c : CodePoint) : Text → Option Text
  | [] => none
  | d :: rest => if d = c then some rest else none

/-- An offset that fills a text. -/
def writtenOffset? (t : Text) : Option WrittenOffset :=
  match t with
  | [] => none
  | c :: rest =>
    if c = 'Z' then if rest.isEmpty then some ⟨false, 0, 0⟩ else none
    else if c = '+' || c = '-' then do
      let (hours, rest) ← digits? 1 2 rest
      if rest.isEmpty then return ⟨c = '-', Numeral.value hours, 0⟩
      let (minutes, rest) ← digits? 2 2 (← behind? ':' rest)
      if rest.isEmpty then return ⟨c = '-', Numeral.value hours, Numeral.value minutes⟩ else none
    else none

/-- The microseconds of the digits behind a point. -/
def microsecondsOf (digits : Text) : Nat :=
  Numeral.value (digits.take 6) * Nat.pow 10 (6 - digits.length)

/-- A time of day that fills a text. -/
def writtenTime? (t : Text) : Option WrittenTime := do
  let (hour, rest) ← digits? 1 2 t
  let (minute, rest) ← digits? 2 2 (← behind? ':' rest)
  let (second, rest) ← digits? 2 2 (← behind? ':' rest)
  let fraction := ((behind? '.' rest).map (·.takeWhile CodePoint.isDigit)).getD []
  let rest := ((behind? '.' rest).map (·.dropWhile CodePoint.isDigit)).getD rest
  let time (offset : Option WrittenOffset) : WrittenTime :=
    ⟨Numeral.value hour, Numeral.value minute, Numeral.value second, microsecondsOf fraction, offset⟩
  if rest.isEmpty then return time none
  return time (some (← writtenOffset? (rest.dropWhile isBlank)))

/-- The time of day behind a date: behind a T or blanks. -/
def timeBehind? : Text → Option WrittenTime
  | [] => none
  | c :: rest =>
    if c = 'T' || c = 't' then writtenTime? rest
    else if isBlank c then writtenTime? (rest.dropWhile isBlank)
    else none

/-- A date, perhaps with a time of day, that fills a text. -/
def writtenInstant? (t : Text) : Option WrittenInstant := do
  let (year, rest) ← digits? 4 4 t
  let (month, rest) ← digits? 1 2 (← behind? '-' rest)
  let (day, rest) ← digits? 1 2 (← behind? '-' rest)
  let instant (time : Option WrittenTime) : WrittenInstant :=
    ⟨Numeral.value year, Numeral.value month, Numeral.value day, month.length = 2 && day.length = 2, time⟩
  if rest.isEmpty then return instant none
  return instant (some (← timeBehind? rest))

/-- The form of a date: without a time of day, month and day have two digits each. -/
def isInstant (t : Text) : Bool :=
  (writtenInstant? t).any fun w => w.padded || w.time.isSome

/-! ### Words -/

/-- The words for truth values. -/
def truthWords : List Text :=
  ["yes", "Yes", "YES", "no", "No", "NO", "true", "True", "TRUE", "false", "False", "FALSE", "on", "On", "ON", "off",
    "Off", "OFF"]

/-- The words for no value; an empty text is one. -/
def nullWords : List Text :=
  ["", "~", "null", "Null", "NULL"]

/-- The texts of single indicators, which mean nothing on their own. -/
def indicatorWords : List Text :=
  ["!", "&", "*"]

/-- The tag of a plain scalar. -/
def plainTag (t : Text) : Tag :=
  let t := withoutLastBreak t
  if truthWords.contains t then .bool
  else if isFloat t then .float
  else if isInteger t then .int
  else if t = ("<<" : Text) then .merge
  else if nullWords.contains t then .null
  else if isInstant t then .timestamp
  else if t = ("=" : Text) then .value
  else if indicatorWords.contains t then .unknown "yaml"
  else .str

end FileSieve.Document
