import FileSieve.Value.Misuse

/-!
# Places in a document

A document is a text in the form of YAML 1.1. It is read from its beginning to its end: a cursor holds what is left
of it, and where that begins. Columns matter, because the structure of a document can be given by indentation.

Only what a document means is modelled, and that it is malformed, not where or why it is. The other faults are
those of values: a text that should be a number and is none, a date out of the calendar.
-/

namespace FileSieve.Document

/-- Why a document has no meaning. -/
inductive Fault
  /-- It is not well formed, or asks for a kind of value that there is not. -/
  | malformed
  /-- A text is no value of the kind that it should be. -/
  | misuse (m : Misuse)
  deriving DecidableEq, Repr

/-- A code point that ends a line. -/
def isBreak (c : CodePoint) : Bool :=
  c.val == 0x0A || c.val == 0x85 || c.val == 0x2028 || c.val == 0x2029

/-- A space or a tab. -/
def isBlank (c : CodePoint) : Bool :=
  c.val == 0x20 || c.val == 0x09

/-- A space, a tab or the end of a line: what separates words. -/
def isGap (c : CodePoint) : Bool :=
  isBlank c || isBreak c

/-- A space or the end of a line. -/
def isSpaceOrBreak (c : CodePoint) : Bool :=
  c.val == 0x20 || isBreak c

/-- An ASCII letter, digit, hyphen or low line: what names are made of. -/
def isNamePoint (c : CodePoint) : Bool :=
  c.isDigit || c.isAsciiLetter || c = '-' || c = '_'

/-- Whether a text begins with three marks `c` that stand alone: they separate documents. -/
def beginsWithMarks (c : CodePoint) : Text → Bool
  | x :: y :: z :: rest => x = c && y = c && z = c && rest.head?.all isGap
  | _ => false

/-- Whether a text begins with a separator of documents. -/
def beginsWithSeparator (t : Text) : Bool :=
  beginsWithMarks '-' t || beginsWithMarks '.' t

/-- A place in a document. -/
structure Cursor where
  /-- What is left of the document. -/
  rest : Text
  /-- How many code points are before it. -/
  index : Nat := 0
  /-- How many lines have ended before it. -/
  line : Nat := 0
  /-- The column; a byte order mark takes none. -/
  column : Nat := 0
  deriving Repr

namespace Cursor

/-- The first code point that is left. -/
def head? (cur : Cursor) : Option CodePoint :=
  cur.rest.head?

/-- The code point behind the first. -/
def second? (cur : Cursor) : Option CodePoint :=
  (cur.rest.drop 1).head?

/-- Whether the first code point that is left is `c`. -/
def sees (cur : Cursor) (c : CodePoint) : Bool :=
  cur.head?.any (· == c)

/-- Whether the first code point that is left is in a class. -/
def seesAny (cur : Cursor) (p : CodePoint → Bool) : Bool :=
  cur.head?.any p

/-- Whether the document ends, or goes on with a code point of a class. -/
def seesEndOr (cur : Cursor) (p : CodePoint → Bool) : Bool :=
  cur.head?.all p

/-- Whether nothing is left. -/
def atEnd (cur : Cursor) : Bool :=
  cur.rest.isEmpty

/-- The place behind the first code point. -/
def next (cur : Cursor) : Cursor :=
  match cur.rest with
  | [] => cur
  | c :: rest =>
    if isBreak c then { rest, index := cur.index + 1, line := cur.line + 1, column := 0 }
    else
      { rest, index := cur.index + 1, line := cur.line
        column := if c.val = 0xFEFF then cur.column else cur.column + 1 }

/-- The place `n` code points further. -/
def advance : (n : Nat) → Cursor → Cursor
  | 0, cur => cur
  | n + 1, cur => advance n cur.next

/-- The code points of a class that come first, and the place behind them. -/
def takeWhile (p : CodePoint → Bool) (cur : Cursor) : Text × Cursor :=
  let taken := cur.rest.takeWhile p
  (taken, cur.advance taken.length)

/-- The place behind the code points of a class that come first. -/
def skipWhile (p : CodePoint → Bool) (cur : Cursor) : Cursor :=
  (cur.takeWhile p).2

/-- The place behind the spaces that come first. -/
def skipSpaces (cur : Cursor) : Cursor :=
  cur.skipWhile (·.val == 0x20)

/-- The place behind a comment, if one comes first. -/
def skipComment (cur : Cursor) : Cursor :=
  if cur.sees '#' then cur.skipWhile (!isBreak ·) else cur

/-- The end of a line that comes first, and the place behind it. A next line counts as a line feed. -/
def lineBreak? (cur : Cursor) : Option (CodePoint × Cursor) :=
  match cur.rest with
  | [] => none
  | c :: _ =>
    if c.val = 0x0A || c.val = 0x85 then some ('\n', cur.next)
    else if isBreak c then some (c, cur.next)
    else none

/-- The place behind the rest of a line that may hold a comment and nothing else. -/
def finishLine (cur : Cursor) : Except Fault Cursor :=
  let cur := cur.skipSpaces.skipComment
  if cur.seesEndOr isBreak then .ok ((cur.lineBreak?.map Prod.snd).getD cur) else .error .malformed

end Cursor

end FileSieve.Document
