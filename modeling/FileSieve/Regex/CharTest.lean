import FileSieve.Regex.Syntax
import FileSieve.Text.Blank
import FileSieve.Text.Case
import FileSieve.Text.Letter

/-!
# Testing a code point

What the tests of a pattern hold of, under the mode in force. The classes are those of ASCII unless the
mode asks for Unicode, and under case folding a code point matches what shares its lower-case form; in the
Unicode repertoire lower-case forms that share an upper-case form match each other too.
-/

namespace FileSieve.Regex

/-- The code point in the form in which case folding compares it. -/
def Mode.fold (m : Mode) (c : CodePoint) : CodePoint :=
  if m.ignoreCase then (if m.unicode then c.lower else c.asciiLower) else c

/-- Whether `c` is in a class. -/
def Category.holds (m : Mode) (cat : Category) (c : CodePoint) : Bool :=
  match cat with
  | .digit => if m.unicode then c.isDecimal else c.isDigit
  | .space => if m.unicode then c.isBlank else c.isAsciiSpace
  | .word => if m.unicode then c.isWord else c.isAsciiWord

/-- Whether `c` is the code point `x`, or its other case under case folding. -/
def Mode.same (m : Mode) (x c : CodePoint) : Bool :=
  if m.ignoreCase && m.unicode then
    c.lower == x.lower || x.lower.siblings.contains c.lower
  else m.fold c == m.fold x

/-- Whether `c` lies between two code points. -/
def between (lo hi c : CodePoint) : Bool :=
  lo ≤ c && c ≤ hi

/-- Whether `c`, in its folded form, is the other case of a code point between two. Beyond U+FFFF a range
is asked for the form itself and for its upper case. -/
def Mode.inRange (m : Mode) (lo hi c : CodePoint) : Bool :=
  if m.ignoreCase then
    let d := m.fold c
    let forms : List CodePoint :=
      if m.unicode then (d :: d.siblings).flatMap CodePoint.lowerSources
      else if d.isAsciiLower then [d, CodePoint.ofNat (d.val - 0x20)] else [d]
    forms.any (fun x => x.val ≤ 0xFFFF && between lo hi x)
      || (0xFFFF < hi.val && (between lo hi d || between lo hi d.upper))
  else between lo hi c

/-- Whether an item of a set has `c`. In a folded set a single code point beyond U+FFFF is compared with the
lower-case form as it stands. -/
def SetItem.holds (m : Mode) (item : SetItem) (c : CodePoint) : Bool :=
  match item with
  | .point x =>
    if m.ignoreCase && 0xFFFF < (m.fold x).val then m.fold c == x else m.same x c
  | .range lo hi => m.inRange lo hi c
  | .category cat negated => cat.holds m c != negated

/-- Whether `c` passes a test. -/
def CharTest.holds (m : Mode) (test : CharTest) (c : CodePoint) : Bool :=
  match test with
  | .any => m.dotAll || c != ('\n' : CodePoint)
  | .point negated x => m.same x c != negated
  | .oneOf negated items => items.any (·.holds m c) != negated

end FileSieve.Regex
