import FileSieve.Text.Printable
import FileSieve.Text.Utf8

/-!
# Quoted text

How messages show a text or octets: between single quotes, or between double quotes when the text has a
single quote and no double quote. The quote in use, the backslash, tab, newline and carriage return are
written with a backslash; what is not printable is written as its number in hexadecimal digits.
-/

namespace FileSieve

/-- The quote for a text: double when it has a single quote and no double quote, single otherwise. -/
def quoteMark (t : Text) : CodePoint :=
  if t.contains ('\'' : CodePoint) && !t.contains ('"' : CodePoint) then '"' else '\''

/-- A code point by its number: two, four or eight hexadecimal digits, as few as it takes. -/
def CodePoint.numbered (c : CodePoint) : Text :=
  if c.val < 0x100 then "\\x" ++ Text.hex 2 c.val
  else if c.val < 0x10000 then "\\u" ++ Text.hex 4 c.val
  else "\\U" ++ Text.hex 8 c.val

/-- One code point within quotes `mark`, where `plain` says which are shown as themselves. -/
def CodePoint.quoted (plain : CodePoint → Bool) (mark c : CodePoint) : Text :=
  if c = mark || c = '\\' then ['\\', c]
  else if c = '\t' then "\\t"
  else if c = '\n' then "\\n"
  else if c = '\r' then "\\r"
  else if plain c then [c]
  else c.numbered

/-- A text between quotes. -/
def Text.quoted (t : Text) : Text :=
  let mark := quoteMark t
  mark :: t.flatMap (CodePoint.quoted CodePoint.isPrintable mark) ++ [mark]

/-- Octets between quotes, with the letter b in front; only printable ASCII is shown as itself. -/
def Octets.quoted (b : Octets) : Text :=
  let t := Text.ofLatin1 b
  let mark := quoteMark t
  ('b' : CodePoint) :: mark ::
    t.flatMap (CodePoint.quoted (fun c => 0x20 ≤ c.val && c.val < 0x7F) mark) ++ [mark]

end FileSieve
