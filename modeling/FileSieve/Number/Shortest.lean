import FileSieve.Text.Basic
import FileSieve.Number.Binary64

/-!
# The shortest decimal of a floating-point number

A finite number is written with the fewest decimal digits that read back as the same number; of two
decimals of that length the nearer one, and at a tie the one with an even last digit.

`Decimal` is a digit sequence with the place of its point, `shortest` finds it on the decimal grids of
one, two, … seventeen digits, and `Binary64.text` lays it out: positional from `0.0001` up to below ten to
the power sixteen, with an exponent of at least two digits otherwise.
-/

namespace FileSieve

/-- The number `0.d₁d₂…` times ten to the power `point`, where `digits` is the number `d₁d₂…` and has
`count` digits. -/
structure Decimal where
  /-- The digits as one number. -/
  digits : Nat
  /-- How many digits there are. -/
  count : Nat
  /-- The power of ten. -/
  point : Int
  deriving DecidableEq, Repr

namespace Binary64

/-- The reals that round to a number, as counts of a quarter of a unit. -/
structure Span where
  /-- The lower end. -/
  low : Nat
  /-- The upper end. -/
  high : Nat
  /-- Whether the ends round to the number. -/
  closed : Bool

/-- The reals that round to a positive number: half the gap to each neighbour, the ends included when the
count of gaps is even. Below a power of two the gap is half as wide. -/
def span (units : Nat) : Span :=
  let step := gap units
  let below := if units = Nat.pow 2 units.log2 && step > 1 then step else 2 * step
  { low := 4 * units - below, high := 4 * units + 2 * step, closed := units / step % 2 = 0 }

/-- Whether `num / den` units round to the number of the span. -/
def Span.has (s : Span) (num den : Nat) : Bool :=
  if s.closed then s.low * den ≤ 4 * num && 4 * num ≤ s.high * den
  else s.low * den < 4 * num && 4 * num < s.high * den

/-- The number of decimal digits in front of the point of a number of at least one. -/
def wholeDigits : (fuel : Nat) → (n : Nat) → Nat
  | 0, _ => 0
  | fuel + 1, n => if n = 0 then 0 else 1 + wholeDigits fuel (n / 10)

/-- The number of zeros behind the point of a number below one, at least `zeros`. -/
def leadingZeros : (fuel : Nat) → (units : Nat) → (zeros : Nat) → Nat
  | 0, _, zeros => zeros
  | fuel + 1, units, zeros => if one ≤ units * 10 then zeros else leadingZeros fuel (units * 10) (zeros + 1)

/-- The power of ten just above a positive number. -/
def magnitude (units : Nat) : Int :=
  if one ≤ units then wholeDigits 400 (units / one) else -leadingZeros 400 units 0

/-- Ten to the power `e` as a numerator and a denominator. -/
def tenPower : Int → Nat × Nat
  | .ofNat e => (Nat.pow 10 e, 1)
  | .negSucc e => (1, Nat.pow 10 (e + 1))

/-- The decimal of `count` digits that rounds to a positive number, if its grid has one: of the grid's two
neighbours of the number the nearer one that does. -/
def onGrid? (units : Nat) (point : Int) (count : Nat) : Option Decimal :=
  let (num, den) := tenPower (point - count)
  let s := span units
  let scale := one * num
  let floor := units * den / scale
  let rest := units * den % scale
  let lowFits := s.has (floor * scale) den
  let highFits := s.has ((floor + 1) * scale) den
  let up := if 2 * rest < scale then false else if scale < 2 * rest then true else floor % 2 == 1
  let pick := if lowFits && highFits then (if up then floor + 1 else floor) else if lowFits then floor else floor + 1
  if lowFits || highFits then
    if pick = Nat.pow 10 count then some ⟨1, 1, point + 1⟩ else some ⟨pick, count, point⟩
  else none

/-- The first grid from `count` digits on, of `fuel` grids, that has a decimal for the number. -/
def shortestFrom (units : Nat) (point : Int) : (fuel count : Nat) → Decimal
  | 0, count => ⟨0, count, point⟩
  | fuel + 1, count =>
    match onGrid? units point count with
    | some d => d
    | none => shortestFrom units point fuel (count + 1)

/-- The shortest decimal of a positive number. -/
def shortest (units : Nat) : Decimal :=
  shortestFrom units (magnitude units) 17 1

end Binary64

/-- Where a decimal is written with its point in place: for the powers of ten from `low` to `high`. -/
structure DecimalLayout where
  /-- The least power of ten with a point in place. -/
  low : Int
  /-- The greatest power of ten with a point in place. -/
  high : Int
  /-- The least number of digits of an exponent. -/
  exponentDigits : Nat

/-- Numbers from `0.0001` to below ten to the power sixteen have their point in place, and an exponent has
at least two digits. -/
def DecimalLayout.standard : DecimalLayout := ⟨-3, 16, 2⟩

/-- The digits of a decimal, exactly `count` of them. -/
def Decimal.digitText (d : Decimal) : Text :=
  Text.padded d.count d.digits

/-- A decimal in a layout; a whole number with its point in place is followed by a zero. -/
def Decimal.text (layout : DecimalLayout) (d : Decimal) : Text :=
  let digits := d.digitText
  if layout.low ≤ d.point && d.point ≤ layout.high then
    if d.point ≤ 0 then
      "0." ++ List.replicate d.point.natAbs ('0' : CodePoint) ++ digits
    else
      let whole := d.point.toNat
      if d.count ≤ whole then
        digits ++ List.replicate (whole - d.count) ('0' : CodePoint) ++ ".0"
      else digits.take whole ++ "." ++ digits.drop whole
  else
    let e := d.point - 1
    let fraction : Text := if d.count ≤ 1 then [] else ('.' : CodePoint) :: digits.drop 1
    digits.take 1 ++ fraction ++ (if e < 0 then "e-" else "e+") ++ Text.padded layout.exponentDigits e.natAbs

/-- A number as text: the shortest decimal that reads back as it. -/
def Binary64.text : Binary64 → Text
  | .finite s units =>
    let digits : Text :=
      if units = 0 then ("0.0" : Text) else (Binary64.shortest units).text DecimalLayout.standard
    if s then ('-' : CodePoint) :: digits else digits
  | .infinite s => if s then "-inf" else "inf"
  | .nan => "nan"

end FileSieve
