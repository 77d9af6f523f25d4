import FileSieve.Text.Blank
import FileSieve.Text.Letter
import FileSieve.Number.Binary64

/-!
# Reading numbers

Numbers are read from text in the decimal digits of any script, with white space around them, an optional
sign, and single low lines between digits. An integer may have at most `maxDigits` digits. A
floating-point number may have a point and an exponent, or be the name of an infinity or of no number.
-/

namespace FileSieve

/-- How many digits an integer may have where text is read or written. -/
def maxDigits : Nat := 4300

/-- Why a text is no integer. -/
inductive IntFault
  /-- The text has not the form of an integer. -/
  | malformed
  /-- The text has more digits than an integer may have. -/
  | tooLong (digits : Nat)
  deriving DecidableEq, Repr

/-- The message for too many digits. -/
def tooLongMessage (digits : Nat) : Text :=
  "Exceeds the limit (" ++ Text.ofNat maxDigits ++ " digits) for integer string conversion: value has "
    ++ Text.ofNat digits ++ " digits; use sys.set_int_max_str_digits() to increase the limit"

namespace Numeral

/-- Digits of any script as ASCII digits and white space beyond ASCII as spaces; other code points beyond
ASCII belong to no number and become question marks. -/
def plain (t : Text) : Text :=
  t.map fun c =>
    if c.val < 0x7F then c
    else if c.isBlank then ' '
    else match c.decimalValue? with
      | some d => CodePoint.ofDigit d
      | none => '?'

/-- The plain form without the white space around it. -/
def body (t : Text) : Text :=
  (plain t).trim CodePoint.isAsciiSpace

/-- A sign and what follows it. -/
def sign : Text → Bool × Text
  | [] => (false, [])
  | c :: rest => if c = '-' then (true, rest) else if c = '+' then (false, rest) else (false, c :: rest)

/-- Whether every low line stands between two digits; `afterDigit` says whether a digit is just before. -/
def spacedWell : (afterDigit : Bool) → Text → Bool
  | _, [] => true
  | afterDigit, c :: rest =>
    if c = '_' then
      afterDigit && (rest.head?.map CodePoint.isDigit).getD false && spacedWell false rest
    else spacedWell c.isDigit rest

/-- The text without low lines, if every low line stands between two digits. -/
def withoutLowLines (t : Text) : Option Text :=
  if spacedWell false t then some (t.filter (· ≠ ('_' : CodePoint))) else none

/-- The value of a sequence of decimal digits. -/
def value (digits : Text) : Nat :=
  digits.foldl (fun n c => n * 10 + c.digitValue) 0

/-- Whether a text is a non-empty sequence of ASCII digits. -/
def allDigits (t : Text) : Bool :=
  !t.isEmpty && t.all CodePoint.isDigit

/-- ASCII letters in lower case. -/
def asciiLower (t : Text) : Text :=
  t.map CodePoint.asciiLower

/-- The decimal `m · 10 ^ e`, in which powers of ten far outside the format are cut off: they would give
zero or an infinity anyway. -/
def scaled (negative : Bool) (m : Nat) (digits : Nat) (e : Int) : Binary64 :=
  if m = 0 then .finite negative 0
  else if e + digits > 400 then .infinite negative
  else if e + digits < -400 then .finite negative 0
  else Binary64.ofDecimal negative m e

/-- An optional exponent: a letter e in either case, a sign, digits. -/
def exponent? : Text → Option Int
  | [] => some 0
  | c :: rest =>
    if c = 'e' || c = 'E' then
      let (negative, digits) := sign rest
      if allDigits digits then some (if negative then -(value digits : Int) else value digits) else none
    else none

/-- A decimal with an optional point and exponent, at least one digit before the exponent. -/
def decimal? (negative : Bool) (t : Text) : Option Binary64 :=
  let whole := t.takeWhile CodePoint.isDigit
  let rest := t.dropWhile CodePoint.isDigit
  let (fraction, rest) :=
    match rest with
    | [] => (([] : Text), rest)
    | c :: after =>
      if c = '.' then (after.takeWhile CodePoint.isDigit, after.dropWhile CodePoint.isDigit) else ([], rest)
  if whole.isEmpty && fraction.isEmpty then none
  else (exponent? rest).map fun e =>
    let digits := (whole ++ fraction).dropWhile (· == ('0' : CodePoint))
    scaled negative (value digits) digits.length (e - fraction.length)

end Numeral

/-- Reads an integer. -/
def Text.toInt (t : Text) : Except IntFault Int :=
  let (negative, digits) := Numeral.sign (Numeral.body t)
  match Numeral.withoutLowLines digits with
  | none => .error .malformed
  | some digits =>
    if Numeral.allDigits digits then
      if digits.length > maxDigits then .error (.tooLong digits.length)
      else .ok (if negative then -(Numeral.value digits : Int) else Numeral.value digits)
    else .error .malformed

/-- Reads a floating-point number. -/
def Text.toBinary64? (t : Text) : Option Binary64 := do
  let t ← Numeral.withoutLowLines (Numeral.body t)
  let (negative, t) := Numeral.sign t
  let name := Numeral.asciiLower t
  if name = ("inf" : Text) || name = ("infinity" : Text) then return .infinite negative
  else if name = ("nan" : Text) then return .nan
  else Numeral.decimal? negative t

end FileSieve
