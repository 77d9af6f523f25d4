import FileSieve.Text.Utf8

/-!
# Base 64

Octets written in the 64 code points of RFC 4648, four for every three octets. Other code points are passed over, and
equals signs that complete a group of four end the text.
-/

namespace FileSieve.Base64

/-- The six bits of a code point. -/
def sextet? (c : CodePoint) : Option Nat :=
  if c.isAsciiUpper then some (c.val - 0x41)
  else if c.isAsciiLower then some (c.val - 0x61 + 26)
  else if c.isDigit then some (c.digitValue + 52)
  else if c = '+' then some 62
  else if c = '/' then some 63
  else none

/-- Reads on behind `position` code points of a group of four, the last of which leaves the bits `held`, and `signs`
equals signs. -/
def decodeFrom : (position held signs : Nat) → Text → Option Octets
  | position, _, _, [] => if position = 0 then some [] else none
  | position, held, signs, c :: rest =>
    if c = '=' then
      if position < 2 then decodeFrom position held signs rest
      else if 4 ≤ position + signs + 1 then some []
      else decodeFrom position held (signs + 1) rest
    else match sextet? c with
      | none => decodeFrom position held signs rest
      | some bits =>
        let octet (n : Nat) (more : Option Octets) : Option Octets := more.map (UInt8.ofNat n :: ·)
        match position with
        | 0 => decodeFrom 1 bits 0 rest
        | 1 => octet (held * 4 + bits / 16) (decodeFrom 2 (bits % 16) 0 rest)
        | 2 => octet (held * 16 + bits / 4) (decodeFrom 3 (bits % 4) 0 rest)
        | _ => octet (held * 64 + bits) (decodeFrom 0 0 0 rest)

/-- The octets of a text, if its groups are complete. -/
def decode? (t : Text) : Option Octets :=
  decodeFrom 0 0 0 t

end FileSieve.Base64
