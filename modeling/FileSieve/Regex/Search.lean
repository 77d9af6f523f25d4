import FileSieve.Regex.Matcher
import FileSieve.Regex.Reader

/-!
# Searching a text

A pattern that has been read matches at the first position from which its tree matches. Positions before
the one where the search starts are still seen by anchors and look-behinds.
-/

namespace FileSieve.Regex

/-- A match of a pattern in a text. -/
structure Match where
  /-- Where it begins. -/
  start : Nat
  /-- Where it ends. -/
  stop : Nat
  /-- The ends of the groups that have matched. -/
  groups : List (Option (Nat × Nat))
  deriving DecidableEq, Repr

namespace Parsed

/-- The match that begins at a position. -/
def matchAt? (pattern : Parsed) (s : Array CodePoint) (pos : Nat) : Option Match :=
  (pattern.node.run s pattern.mode some ⟨pos, List.replicate pattern.groups {}⟩).map fun p =>
    ⟨pos, p.pos, p.groups.map Span.ends?⟩

/-- The first match that begins at `pos` or at one of the `count` positions behind it. -/
def matchFrom? (pattern : Parsed) (s : Array CodePoint) : (count pos : Nat) → Option Match
  | 0, pos => pattern.matchAt? s pos
  | count + 1, pos =>
    match pattern.matchAt? s pos with
    | some found => some found
    | none => matchFrom? pattern s count (pos + 1)

/-- The first match in a text that begins at `offset` or later. -/
def search? (pattern : Parsed) (text : Text) (offset : Nat) : Option Match :=
  let s := text.toArray
  if s.size < offset then none else pattern.matchFrom? s (s.size - offset) offset

end Parsed

/-- The text of a match in the text that was searched. -/
def Match.text (found : Match) (text : Text) : Text :=
  (text.drop found.start).take (found.stop - found.start)

/-- The texts of the groups of a match. -/
def Match.groupTexts (found : Match) (text : Text) : List (Option Text) :=
  found.groups.map fun ends => ends.map fun (a, b) => (text.drop a).take (b - a)

end FileSieve.Regex
