import FileSieve.Pattern.Quote
import FileSieve.Pattern.Substitution

/-!
# Globs as regular expressions

A glob is a shell wildcard pattern: a star takes any run without separators, two stars any run, a question
mark one code point that is no separator, and brackets one of the code points between them, or none of them
behind an exclamation mark; a backslash takes the meaning away from what follows.

The glob is quoted as a whole, and then the quoted wildcards are replaced by what they mean, the longest first.
A bracket must not take a separator whatever stands in it, so a look-behind for each separator follows it.
-/

namespace FileSieve.Glob

/-- The separators of directories as a regular expression needs them. -/
structure Separators where
  /-- All of them, quoted. -/
  quoted : Text
  /-- Each of them, quoted. -/
  each : List Text
  /-- Whether there are any. -/
  present : Bool
  deriving DecidableEq, Repr

/-- The separators of a text. -/
def Separators.ofText (t : Text) : Separators where
  quoted := t.quotedLiteral
  each := t.map fun c => Text.quotedLiteral [c]
  present := !t.isEmpty

namespace Separators

/-- One code point that is no separator. -/
def anyPoint (s : Separators) : Text :=
  if s.present then "[^" ++ s.quoted ++ "]" else "."

/-- A run without separators. -/
def anyRun (s : Separators) : Text :=
  s.anyPoint ++ ("*" : Text)

/-- The end of a bracket: what the bracket took was no separator. -/
def bracketEnd (s : Separators) : Text :=
  let guards : Text := s.each.flatMap fun c : Text => ("(?<!" ++ c ++ ")" : Text)
  "]" ++ guards

/-- What takes the place of the quoted wildcards. -/
def table (s : Separators) : Substitution :=
  [("\\*\\*", ".*"), ("\\*", s.anyRun), ("\\?", s.anyPoint), ("\\[\\!", "[^"), ("\\[", "["), ("\\-", "-"),
    ("\\]", s.bracketEnd), ("\\\\\\", "\\")]

/-- The regular expression of a glob that has been quoted. -/
def regexOf (s : Separators) (quoted : Text) : Text :=
  s.table.apply quoted

end Separators

/-- The regular expression of a glob under separators. -/
def toRegex (glob separators : Text) : Text :=
  (Separators.ofText separators).regexOf glob.quotedLiteral

end FileSieve.Glob
