import FileSieve.Regex.Search

/-!
# Replacing what a pattern matches

A text is searched from the left. Something takes the place of each match, and the search goes on behind the match;
what has been put in is not searched. The patterns are ones that never match the empty text.

An escaped text is a pattern that matches this text only. More is escaped than has a meaning, and other code points
than a quoted text marks.
-/

namespace FileSieve.Regex

/-- The code points that an escaped text marks with a backslash. -/
def reserved : Text :=
  "()[]\x7b\x7d?*+-|^$\\.&~# \t\n\r\x0b\x0c"

/-- One code point of an escaped text. -/
def escapePoint (c : CodePoint) : Text :=
  if reserved.contains c then ['\\', c] else [c]

/-- The pattern that matches a text only. -/
def escaped (t : Text) : Text :=
  t.flatMap escapePoint

namespace Parsed

/-- Replaces the matches that begin at `pos` or later, at most `fuel` of them. -/
def replaceFrom (pattern : Parsed) (new : Text → Text) (s : Array CodePoint) : (fuel pos : Nat) → Text
  | 0, pos => s.toList.drop pos
  | fuel + 1, pos =>
    match pattern.matchFrom? s (s.size - pos) pos with
    | none => s.toList.drop pos
    | some found =>
      (s.extract pos found.start).toList ++ new (s.extract found.start found.stop).toList
        ++ replaceFrom pattern new s fuel found.stop

/-- The text with every match replaced by what `new` gives for its text. There are no more matches than code points. -/
def replaceAll (pattern : Parsed) (new : Text → Text) (text : Text) : Text :=
  pattern.replaceFrom new text.toArray text.length 0

end Parsed

end FileSieve.Regex
