import FileSieve.Text.Ranges

/-!
# White space

The code points that count as white space in text: those of bidirectional class WS, B or S, and the
space separators. Stripping text and every class of blanks outside ASCII-only patterns use this set.
-/

namespace FileSieve

/-- The ranges of white space. -/
def blankRanges : List (Nat × Nat) := [
  (0x9, 0xD), (0x1C, 0x20), (0x85, 0x85), (0xA0, 0xA0), (0x1680, 0x1680), (0x2000, 0x200A), (0x2028, 0x2029),
  (0x202F, 0x202F), (0x205F, 0x205F), (0x3000, 0x3000)]

/-- A white space code point. -/
def CodePoint.isBlank (c : CodePoint) : Bool :=
  Ranges.contains blankRanges c.val

/-- `t` without the white space at either end. -/
def Text.strip (t : Text) : Text :=
  t.trim CodePoint.isBlank

end FileSieve
