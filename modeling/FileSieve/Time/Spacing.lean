import FileSieve.Text.Blank

/-!
# Superfluous white space in dates and times

White space on either side of a mark, such as the hyphen of a date or the colon of a time, is dropped, and so is
white space on either side of a T between digits or white space. What is left of a run becomes one
space, and none stays at the ends.
-/

namespace FileSieve.Spacing

/-- The marks within dates and times. -/
def isMark (c : CodePoint) : Bool :=
  c = '-' || c = '.' || c = ':' || c = '/' || c = '+'

/-- Digits and white space, which stand on either side of a T. -/
def isRun (c : CodePoint) : Bool :=
  c.isDigit || c.isBlank

/-- Drops white space behind marks; `dropping` holds behind a mark. -/
def closeAfter : (dropping : Bool) → Text → Text
  | _, [] => []
  | dropping, c :: rest =>
    if dropping && c.isBlank then closeAfter true rest else c :: closeAfter (isMark c) rest

/-- Drops white space before marks. -/
def closeBefore (t : Text) : Text :=
  (closeAfter false t.reverse).reverse

/-- Drops white space behind a T that a run stands before; `run` holds behind a run and `dropping` behind
such a T. White space that is dropped is no run for a T behind it. -/
def closeAfterT : (run dropping : Bool) → Text → Text
  | _, _, [] => []
  | run, dropping, c :: rest =>
    if dropping && c.isBlank then closeAfterT false true rest
    else c :: closeAfterT (isRun c) (run && c = 'T') rest

/-- Drops white space before a T that a run stands behind. The run goes with the T, so white space in it stays;
`inRun` holds there, and `held` is the white space just passed, in reverse order. -/
def closeBeforeT : (inRun : Bool) → (held : Text) → Text → Text
  | _, held, [] => held.reverse
  | inRun, held, c :: rest =>
    if inRun && isRun c then c :: closeBeforeT true [] rest
    else if c.isBlank then closeBeforeT false (c :: held) rest
    else if c = 'T' && !held.isEmpty && (rest.head?.map isRun).getD false then c :: closeBeforeT true [] rest
    else held.reverse ++ c :: closeBeforeT false [] rest

/-- What is left of a run of white space: one space of a longer one, a single code point as it is. -/
def collapsed : Text → Text
  | _ :: _ :: _ => " "
  | held => held

/-- Collapses runs of white space; `held` is the run just passed, in reverse order. -/
def collapse : (held : Text) → Text → Text
  | held, [] => collapsed held
  | held, c :: rest =>
    if c.isBlank then collapse (c :: held) rest else collapsed held ++ c :: collapse [] rest

/-- A text of a date or time without superfluous white space. -/
def tidy (t : Text) : Text :=
  (collapse [] (closeBeforeT false [] (closeBefore (closeAfterT false false (closeAfter false t))))).strip

end FileSieve.Spacing
