import FileSieve.Text.Basic

/-!
# Quoting text for a pattern

Code points with a meaning in a pattern are quoted by a backslash; NUL is written by its octal number. A
quoted text matches itself and nothing else.
-/

namespace FileSieve

/-- The code points that have a meaning in a pattern. -/
def specials : Text :=
  ".\\+*?[^]$()\x7b\x7d=!<>|:-#"

/-- A code point that a quoted text marks with a backslash: a special one, or one of a delimiter. -/
def isQuoted (delimiter : Text) (c : CodePoint) : Bool :=
  specials.contains c || delimiter.contains c

/-- One code point of a quoted text. -/
def quotePoint (delimiter : Text) (c : CodePoint) : Text :=
  if isQuoted delimiter c then ['\\', c]
  else if c.val = 0 then "\\000"
  else [c]

/-- The pattern that a text spells literally; the code points of `delimiter` are quoted too. -/
def Text.quotedLiteral (t : Text) (delimiter : Text := []) : Text :=
  t.flatMap (quotePoint delimiter)

end FileSieve
