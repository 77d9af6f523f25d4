import FileSieve.Number.Reading

/-!
# Integers in base two, eight and sixteen

An integer in one of these bases may have a zero and the letter of the base in front of its digits.
-/

namespace FileSieve

/-- The letter of a base. -/
def radixLetter? (base : Nat) : Option CodePoint :=
  if base = 2 then some 'b' else if base = 8 then some 'o' else if base = 16 then some 'x' else none

/-- The digits of an integer without a zero and the letter of the base in front. -/
def withoutRadix (base : Nat) : Text → Text
  | z :: letter :: rest =>
    if z = '0' && radixLetter? base = some letter.asciiLower then rest else z :: letter :: rest
  | t => t

/-- The value of a sequence of digits of a base. -/
def radixValue? (base : Nat) (digits : Text) : Option Nat :=
  if digits.isEmpty then none
  else digits.foldlM (fun n c => (c.hexValue?.filter (· < base)).map fun d => n * base + d) 0

/-- Reads an integer in a base of at most sixteen. -/
def Text.toIntIn? (base : Nat) (t : Text) : Option Int :=
  let (negative, digits) := Numeral.sign (Numeral.body t)
  (radixValue? base (withoutRadix base digits)).map fun n => if negative then -(n : Int) else n

end FileSieve
