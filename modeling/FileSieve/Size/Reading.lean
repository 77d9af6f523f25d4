import FileSieve.Number.Reading
import FileSieve.Size.Unit
import FileSieve.Text.Blank
import FileSieve.Value.Equality
import FileSieve.Value.Shown

/-!
# Sizes

A size is a number of bytes from zero to `maxSize`. It is written as digits without a superfluous zero in
front, perhaps with a unit behind, and before a multiple of the byte perhaps with decimals behind a point or a
comma. What a unit stands behind is read as a floating-point number, multiplied, and cut off to whole bytes.
-/

namespace FileSieve.Size

/-- The greatest size. -/
def maxSize : Nat := Nat.pow 2 63 - 1

/-- Why there is no size. -/
inductive Fault
  /-- The text is not the form of a size. -/
  | unreadable (text : Text)
  /-- There is no such unit. -/
  | unknownUnit (name : Text)
  /-- The number, with its plain form, is out of range. -/
  | outOfRange (value : Magnitude) (shown : Text)
  /-- The number cannot be worked with. -/
  | misuse (m : Misuse)
  deriving DecidableEq, Repr

/-- The wording of a fault. -/
def Fault.message : Fault → Text
  | .unreadable text => "The given string cannot be parsed as a size: " ++ text.quoted
  | .unknownUnit name => "The given binary unit cannot be recognised: " ++ name.quoted
  | .outOfRange _ shown => "Size " ++ shown ++ " is out of range [0, " ++ Text.ofNat maxSize ++ "]."
  | .misuse m => m.message

/-- A number that is out of range. -/
def outOfRange {α : Type} (value : Magnitude) : Except Fault α :=
  match value with
  | .float x => .error (.outOfRange value x.text)
  | .int n =>
    match Int.digits n with
    | .ok digits => .error (.outOfRange value digits)
    | .error m => .error (.misuse m)

/-- A number of bytes that is in range. -/
def inRange (n : Int) : Except Fault Nat :=
  if n < 0 || (maxSize : Int) < n then outOfRange (.int n) else .ok n.toNat

/-- The unit of a name, with white space around it. -/
def unitOf (name : Text) : Except Fault SizeUnit :=
  match SizeUnit.ofName? name.strip with
  | some unit => .ok unit
  | none => .error (.unknownUnit name)

/-- The bytes of a floating-point number of units. -/
def ofFloat (x : Binary64) (unit : SizeUnit) : Except Fault Nat :=
  let bytes := x.mul (.ofInt unit.bytes)
  if bytes.compareInt? maxSize = some .gt then outOfRange (.float bytes)
  else match bytes.truncate? with
    | some n => inRange n
    | none => .error (.misuse (if bytes = .nan then .nanAsInteger else .infinityAsInteger))

/-- The bytes of a number of units. -/
def ofMagnitude (value : Magnitude) (unit : SizeUnit) : Except Fault Nat :=
  match value with
  | .int n => inRange (n * unit.bytes)
  | .float x => ofFloat x unit

/-- The bytes of a number of units of a name. -/
def ofUnits (value : Magnitude) (unit : Text) : Except Fault Nat := do
  ofMagnitude value (← unitOf unit)

/-- A size in units of a name, rounded to a number of decimals. -/
def inUnits (size : Magnitude) (unit : Text) (precision : Int := 2) : Except Fault Binary64 := do
  let unit ← unitOf unit
  let quotient ←
    match size with
    | .int n =>
      match Binary64.ofQuotient n unit.bytes with
      | .infinite _ => .error (.misuse .quotientOverflow)
      | x => pure x
    | .float x => pure (x.divNat unit.bytes)
  match quotient, quotient.roundPlaces precision with
  | .finite _ _, .infinite _ => .error (.misuse .roundedOverflow)
  | _, x => return x

/-! ### The written form -/

/-- The digits of a whole number without a superfluous zero at the front of a text, and the rest. -/
def wholeAt? (t : Text) : Option (Text × Text) :=
  let digits := t.takeWhile CodePoint.isDigit
  let plain := match digits with
    | [] => false
    | [_] => true
    | c :: _ => c != ('0' : CodePoint)
  if plain then some (digits, t.dropWhile CodePoint.isDigit) else none

/-- A point or comma with digits behind it at the front of a text, and the rest; where there is none, nothing
and the whole text. -/
def decimalsAt (t : Text) : Text × Text :=
  match t with
  | [] => ([], t)
  | c :: rest =>
    let digits := rest.takeWhile CodePoint.isDigit
    if (c = '.' || c = ',') && !digits.isEmpty then (c :: digits, rest.dropWhile CodePoint.isDigit) else ([], t)

/-- The number and the unit of a text that is both, white space between them. -/
def scaled? (t : Text) : Option (Text × SizeUnit) :=
  match wholeAt? t with
  | none => none
  | some (whole, rest) =>
    let (decimals, rest) := decimalsAt rest
    match SizeUnit.multiples.lookup (rest.dropWhile CodePoint.isAsciiSpace) with
    | some unit => some (whole ++ decimals, unit)
    | none => none

/-- The number of a text that is a number of bytes with the unit, white space between them. -/
def bytes? (t : Text) : Option Text :=
  match wholeAt? t with
  | none => none
  | some (whole, rest) => if rest.dropWhile CodePoint.isAsciiSpace = ("B" : Text) then some whole else none

/-- The number of a text that is only that. -/
def whole? (t : Text) : Option Text :=
  match wholeAt? t with
  | some (whole, []) => some whole
  | _ => none

/-- A decimal number with a point or a comma, which is read as a point. -/
def number (t : Text) : Binary64 :=
  (Text.replacePoint t ',' ".").toBinary64?.getD .nan

/-- A number and its unit, if a text has one. -/
def withUnit? (t : Text) : Option (Text × SizeUnit) :=
  match scaled? t with
  | some found => some found
  | none => (bytes? t).map fun number => (number, .byte)

/-- Reads a size. -/
def parse (t : Text) : Except Fault Nat :=
  let stripped := t.strip
  match withUnit? stripped with
  | some (text, unit) => ofFloat (number text) unit
  | none =>
    match whole? stripped with
    | none => .error (.unreadable stripped)
    | some digits =>
      if digits.length > maxDigits then .error (.misuse (.tooManyDigits digits.length))
      else inRange (Numeral.value digits)

end FileSieve.Size
