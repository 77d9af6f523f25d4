/-!
# Binary floating-point numbers of 64 bits

Every finite number of the format is a whole multiple of the smallest one, `2 ^ (-1074)`. So a finite
number is kept as its sign and its magnitude counted in that unit, and every operation is exact integer
arithmetic followed by one rounding: `Binary64.round` takes a quotient of integers to the nearest
representable count, a tie to the even neighbour.

`gap` says which counts are representable: at a magnitude of fewer than 53 binary digits every count is,
above it only the multiples of a power of two.
-/

namespace FileSieve

/-- A floating-point number. -/
inductive Binary64
  /-- `units` times `2 ^ (-1074)`, negated when `negative`; zero has a sign too. -/
  | finite (negative : Bool) (units : Nat)
  /-- Beyond the largest finite number. -/
  | infinite (negative : Bool)
  /-- No number. -/
  | nan
  deriving DecidableEq, Repr, Inhabited

namespace Binary64

/-- How many units one is. -/
def one : Nat := Nat.pow 2 1074

/-- The first count that is too large for a finite number. -/
def overflow : Nat := Nat.pow 2 2098

/-- The quotient rounded to the nearest integer, a half to the even neighbour. -/
def roundQuotient (num den : Nat) : Nat :=
  let q := num / den
  let r := num % den
  if 2 * r < den then q
  else if den < 2 * r then q + 1
  else if q % 2 = 0 then q else q + 1

/-- The distance of representable counts at the magnitude of `units`. -/
def gap (units : Nat) : Nat :=
  Nat.pow 2 (units.log2 - 52)

/-- The number nearest to `num / den` units. -/
def round (negative : Bool) (num den : Nat) : Binary64 :=
  let step := gap (num / den)
  let units := roundQuotient num (den * step) * step
  if units < overflow then finite negative units else infinite negative

/-- The number nearest to an integer. -/
def ofInt (n : Int) : Binary64 :=
  round (n < 0) (n.natAbs * one) 1

/-- The number nearest to `m` times ten to the power `e`. -/
def ofDecimal (negative : Bool) (m : Nat) (e : Int) : Binary64 :=
  match e with
  | .ofNat e => round negative (m * Nat.pow 10 e * one) 1
  | .negSucc e => round negative (m * one) (Nat.pow 10 (e + 1))

/-- The number nearest to the quotient of two integers, the second one positive. -/
def ofQuotient (num : Int) (den : Nat) : Binary64 :=
  round (num < 0) (num.natAbs * one) den

/-- The count of units of a finite number with its sign. -/
def signed (negative : Bool) (units : Nat) : Int :=
  if negative then -units else units

/-- The number with the other sign. -/
def neg : Binary64 → Binary64
  | finite s a => finite (!s) a
  | infinite s => infinite (!s)
  | nan => nan

/-- The sum, rounded once. -/
def add : Binary64 → Binary64 → Binary64
  | finite s a, finite t b =>
    let n := signed s a + signed t b
    if n = 0 then finite (s && t) 0 else round (n < 0) n.natAbs 1
  | infinite s, infinite t => if s = t then infinite s else nan
  | infinite s, finite _ _ => infinite s
  | finite _ _, infinite t => infinite t
  | nan, _ => nan
  | _, nan => nan

/-- The product, rounded once. -/
def mul : Binary64 → Binary64 → Binary64
  | finite s a, finite t b => round (s != t) (a * b) one
  | infinite s, finite t b => if b = 0 then nan else infinite (s != t)
  | finite s a, infinite t => if a = 0 then nan else infinite (s != t)
  | infinite s, infinite t => infinite (s != t)
  | nan, _ => nan
  | _, nan => nan

/-- The quotient by a positive integer that has a number of its own. -/
def divNat : Binary64 → Nat → Binary64
  | finite s a, n => round s a n
  | infinite s, _ => infinite s
  | nan, _ => nan

/-- The integer part of a finite number, toward zero. -/
def truncate? : Binary64 → Option Int
  | finite s a => some (signed s (a / one))
  | _ => none

/-- The integer nearest to a finite number, a half to the even neighbour. -/
def nearest? : Binary64 → Option Int
  | finite s a => some (signed s (roundQuotient a one))
  | _ => none

/-- The number rounded to `places` decimal places, a half to the even neighbour: the decimal is rounded
exactly and then read back. -/
def roundPlaces (x : Binary64) (places : Int) : Binary64 :=
  match x with
  | finite s a =>
    if places > 323 then x
    else if places < -308 then finite s 0
    else match places with
      | .ofNat p => round s (roundQuotient (a * Nat.pow 10 p) one * one) (Nat.pow 10 p)
      | .negSucc p => round s (roundQuotient a (one * Nat.pow 10 (p + 1)) * Nat.pow 10 (p + 1) * one) 1
  | x => x

/-- The order of two numbers; none with what is no number. -/
def compare? : Binary64 → Binary64 → Option Ordering
  | finite s a, finite t b => some (compare (signed s a) (signed t b))
  | infinite s, infinite t => some (compare t.toNat s.toNat)
  | infinite s, finite _ _ => some (if s then .lt else .gt)
  | finite _ _, infinite t => some (if t then .gt else .lt)
  | nan, _ => none
  | _, nan => none

/-- The order of a number and an integer, without rounding either. -/
def compareInt? : Binary64 → Int → Option Ordering
  | finite s a, n => some (compare (signed s a) (n * one))
  | infinite s, _ => some (if s then .lt else .gt)
  | nan, _ => none

end Binary64

end FileSieve
