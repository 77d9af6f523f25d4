import FileSieve.Document.Cursor

/-!
# Scalars of a document

A scalar is written plainly, between quotes, or as a block of lines. A plain or quoted one may go over several lines:
an end of a line is read as a space, and empty lines as ends of lines. In a block the lines are kept, or folded in the
same way where they are not indented further.
-/

namespace FileSieve.Document

/-! ### Plain scalars -/

/-- An indicator of collections in brackets. -/
def isBracketPoint (c : CodePoint) : Bool :=
  c = ',' || c = '[' || c = ']' || c = '\x7b' || c = '\x7d'

/-- Whether a plain scalar stops before `c`, behind which `next` comes; `flow` says whether it is in brackets. -/
def stopsPlain (flow : Bool) (c : CodePoint) (next : Option CodePoint) : Bool :=
  isGap c || (c = ':' && next.all fun d => isGap d || (flow && isBracketPoint d)) ||
    (flow && (c = '?' || isBracketPoint c))

/-- The beginning of a text that a plain scalar takes without a gap. -/
def plainRun (flow : Bool) : Text → Text
  | [] => []
  | c :: rest => if stopsPlain flow c rest.head? then [] else c :: plainRun flow rest

/-- The ends of lines that come first, with spaces around them, behind those of `breaks`; none where a separator of
documents follows one. -/
def plainBreaks : (fuel : Nat) → (breaks : Text) → Cursor → Option Text × Cursor
  | 0, breaks, cur => (some breaks, cur)
  | fuel + 1, breaks, cur =>
    if cur.sees ' ' then plainBreaks fuel breaks cur.next
    else match cur.lineBreak? with
      | none => (some breaks, cur)
      | some (c, cur) =>
        if beginsWithSeparator cur.rest then (none, cur) else plainBreaks fuel (breaks ++ [c]) cur

/-- Ends of lines as they are read: a single line feed is a space, and before others it is left out. -/
def folded (first : CodePoint) (breaks : Text) : Text :=
  (if first ≠ '\n' then [first] else if breaks.isEmpty then [' '] else []) ++ breaks

/-- A gap in a plain scalar. -/
structure Gap where
  /-- How it is read; empty when the scalar ends there. -/
  text : Text
  /-- Whether a line ends in it. -/
  crossesLine : Bool
  /-- The place behind it. -/
  cursor : Cursor

/-- The gap in a plain scalar that comes first. -/
def plainGap (cur : Cursor) : Gap :=
  let (spaces, cur) := cur.takeWhile (·.val == 0x20)
  match cur.lineBreak? with
  | none => ⟨spaces, false, cur⟩
  | some (first, cur) =>
    if beginsWithSeparator cur.rest then ⟨[], true, cur⟩
    else match plainBreaks cur.rest.length [] cur with
      | (none, cur) => ⟨[], true, cur⟩
      | (some breaks, cur) => ⟨folded first breaks, true, cur⟩

/-- Reads on in a plain scalar behind a gap; `text` is what has been read. -/
def plainFrom (flow : Bool) (indent : Nat) : (fuel : Nat) → (text : Text) → Gap → Text × Gap
  | 0, text, gap => (text, gap)
  | fuel + 1, text, gap =>
    let run := plainRun flow gap.cursor.rest
    if gap.cursor.sees '#' || run.isEmpty then (text, gap)
    else
      let text := text ++ gap.text ++ run
      let gap := plainGap (gap.cursor.advance run.length)
      if gap.text.isEmpty || (!flow && gap.cursor.column < indent) then (text, gap)
      else plainFrom flow indent fuel text gap

/-- The plain scalar that comes first, and the gap behind it. Outside of brackets its lines are at least at the column
`indent`. -/
def plainScalar (flow : Bool) (indent : Nat) (cur : Cursor) : Text × Gap :=
  plainFrom flow indent (cur.rest.length + 1) [] ⟨[], false, cur⟩

/-! ### Quoted scalars -/

/-- The code point of a letter behind a backslash. -/
def escaped? (c : CodePoint) : Option CodePoint :=
  if c = '0' then some (0x00 : CodePoint)
  else if c = 'a' then some (0x07 : CodePoint)
  else if c = 'b' then some (0x08 : CodePoint)
  else if c = 't' || c = '\t' then some (0x09 : CodePoint)
  else if c = 'n' then some (0x0A : CodePoint)
  else if c = 'v' then some (0x0B : CodePoint)
  else if c = 'f' then some (0x0C : CodePoint)
  else if c = 'r' then some (0x0D : CodePoint)
  else if c = 'e' then some (0x1B : CodePoint)
  else if c = ' ' || c = '"' || c = '\\' || c = '/' then some c
  else if c = 'N' then some (0x85 : CodePoint)
  else if c = '_' then some (0xA0 : CodePoint)
  else if c = 'L' then some (0x2028 : CodePoint)
  else if c = 'P' then some (0x2029 : CodePoint)
  else none

/-- How many hexadecimal digits follow a letter behind a backslash. -/
def escapeWidth? (c : CodePoint) : Option Nat :=
  if c = 'x' then some 2 else if c = 'u' then some 4 else if c = 'U' then some 8 else none

/-- The value of hexadecimal digits. -/
def hexNumber (digits : Text) : Nat :=
  digits.foldl (fun n c => n * 16 + c.hexValue?.getD 0) 0

/-- The code point of a number; there are two ways of being too large. -/
def pointOfNumber (n : Nat) : Except Fault CodePoint :=
  if n < 0x110000 then .ok (CodePoint.ofNat n)
  else .error (.misuse (if n < Nat.pow 2 31 then .noCodePoint else .noCodePointNumber))

/-- The code point of the hexadecimal digits that come first, `width` of them. -/
def numberedPoint (width : Nat) (cur : Cursor) : Except Fault (CodePoint × Cursor) :=
  let digits := cur.rest.take width
  if digits.length = width && digits.all CodePoint.isHexDigit then
    (pointOfNumber (hexNumber digits)).map fun c => (c, cur.advance width)
  else .error .malformed

/-- The ends of lines that come first, with blanks around them, behind those of `breaks`. -/
def quotedBreaks : (fuel : Nat) → (breaks : Text) → Cursor → Except Fault (Text × Cursor)
  | 0, _, _ => .error .malformed
  | fuel + 1, breaks, cur =>
    if beginsWithSeparator cur.rest then .error .malformed
    else
      let cur := cur.skipWhile isBlank
      match cur.lineBreak? with
      | none => .ok (breaks, cur)
      | some (c, cur) => quotedBreaks fuel (breaks ++ [c]) cur

/-- What the text behind a backslash stands for. -/
def escape (cur : Cursor) : Except Fault (Text × Cursor) :=
  match cur.rest with
  | [] => .error .malformed
  | c :: _ =>
    match escaped? c, escapeWidth? c with
    | some d, _ => .ok ([d], cur.next)
    | none, some width => (numberedPoint width cur.next).map fun (d, cur) => ([d], cur)
    | none, none =>
      match cur.lineBreak? with
      | some (_, cur) => quotedBreaks (cur.rest.length + 1) [] cur
      | none => .error .malformed

/-- Whether a code point ends a run of a quoted scalar. -/
def stopsQuoted (c : CodePoint) : Bool :=
  isGap c || c = '\'' || c = '"' || c = '\\'

/-- Reads a quoted scalar up to its next gap or its end; `double` says which quotes it has, and `text` is what has
been read. -/
def quotedRun (double : Bool) : (fuel : Nat) → (text : Text) → Cursor →
    Except Fault (Text × Cursor)
  | 0, _, _ => .error .malformed
  | fuel + 1, text, cur =>
    let (run, cur) := cur.takeWhile (!stopsQuoted ·)
    let text := text ++ run
    match cur.rest with
    | [] => .ok (text, cur)
    | c :: rest =>
      if !double && c = '\'' && rest.head?.any (· == ('\'' : CodePoint)) then
        quotedRun double fuel (text ++ [c]) (cur.advance 2)
      else if (double && c = '\'') || (!double && (c = '"' || c = '\\')) then
        quotedRun double fuel (text ++ [c]) cur.next
      else if double && c = '\\' then do
        let (more, cur) ← escape cur.next
        quotedRun double fuel (text ++ more) cur
      else .ok (text, cur)

/-- The gap in a quoted scalar that comes first. -/
def quotedGap (cur : Cursor) : Except Fault (Text × Cursor) :=
  let (blanks, cur) := cur.takeWhile isBlank
  if cur.atEnd then .error .malformed
  else match cur.lineBreak? with
    | none => .ok (blanks, cur)
    | some (first, cur) => do
      let (breaks, cur) ← quotedBreaks (cur.rest.length + 1) [] cur
      return (folded first breaks, cur)

/-- Reads a quoted scalar to its end; `text` is what has been read. -/
def quotedFrom (double : Bool) (quote : CodePoint) : (fuel : Nat) → (text : Text) → Cursor →
    Except Fault (Text × Cursor)
  | 0, _, _ => .error .malformed
  | fuel + 1, text, cur => do
    let (text, cur) ← quotedRun double (cur.rest.length + 1) text cur
    if cur.sees quote then return (text, cur.next)
    else
      let (gap, cur) ← quotedGap cur
      quotedFrom double quote fuel (text ++ gap) cur

/-- The quoted scalar that comes first. -/
def quotedScalar (double : Bool) (cur : Cursor) : Except Fault (Text × Cursor) :=
  quotedFrom double (if double then '"' else '\'') (cur.rest.length + 1) [] cur.next

/-! ### Blocks of lines -/

/-- What becomes of the ends of lines at the end of a block. -/
inductive Chomping
  /-- None is kept. -/
  | strip
  /-- The end of the last line is kept. -/
  | clip
  /-- All are kept. -/
  | keep
  deriving DecidableEq, Repr

/-- The chomping that a sign in the head of a block asks for. -/
def chomping? (c : CodePoint) : Option Chomping :=
  if c = '+' then some .keep else if c = '-' then some .strip else none

/-- The indentation that a digit in the head of a block gives; zero is none. -/
def increment (c : CodePoint) : Except Fault Nat :=
  if c = '0' then .error .malformed else .ok c.digitValue

/-- The head of a block: a sign for the chomping and a digit for the indentation, in either order. -/
def blockHead (cur : Cursor) : Except Fault (Chomping × Option Nat × Cursor) :=
  let finish (chomping : Chomping) (digit : Option Nat) (cur : Cursor) :
      Except Fault (Chomping × Option Nat × Cursor) :=
    if cur.seesEndOr isSpaceOrBreak then .ok (chomping, digit, cur) else .error .malformed
  match cur.head? with
  | none => finish .clip none cur
  | some c =>
    match chomping? c with
    | some chomping =>
      match cur.next.head? with
      | none => finish chomping none cur.next
      | some d =>
        if d.isDigit then do finish chomping (some (← increment d)) cur.next.next
        else finish chomping none cur.next
    | none =>
      if c.isDigit then do
        let digit ← increment c
        match cur.next.head?.bind chomping? with
        | some chomping => finish chomping (some digit) cur.next.next
        | none => finish .clip (some digit) cur.next
      else finish .clip none cur

/-- The empty lines at the beginning of a block, behind those of `breaks`, and the greatest column of a space in them,
at least `column`. -/
def blockMargin : (fuel : Nat) → (breaks : Text) → (column : Nat) → Cursor → Text × Nat × Cursor
  | 0, breaks, column, cur => (breaks, column, cur)
  | fuel + 1, breaks, column, cur =>
    if cur.sees ' ' then blockMargin fuel breaks (max column cur.next.column) cur.next
    else match cur.lineBreak? with
      | none => (breaks, column, cur)
      | some (c, cur) => blockMargin fuel (breaks ++ [c]) column cur

/-- The place behind the spaces that come first, up to the column `indent`. -/
def skipIndent (indent : Nat) : (fuel : Nat) → Cursor → Cursor
  | 0, cur => cur
  | fuel + 1, cur => if cur.column < indent && cur.sees ' ' then skipIndent indent fuel cur.next else cur

/-- The empty lines that come first in a block indented to `indent`, behind those of `breaks`. -/
def blockBreaks (indent : Nat) : (fuel : Nat) → (breaks : Text) → Cursor → Text × Cursor
  | 0, breaks, cur => (breaks, cur)
  | fuel + 1, breaks, cur =>
    let cur := skipIndent indent cur.rest.length cur
    match cur.lineBreak? with
    | none => (breaks, cur)
    | some (c, cur) => blockBreaks indent fuel (breaks ++ [c]) cur

/-- What is read of a block. -/
structure Block where
  /-- The lines, but for the end of the last one. -/
  text : Text
  /-- The end of the last line. -/
  last : Text
  /-- The empty lines behind it. -/
  breaks : Text
  /-- The place behind them. -/
  cursor : Cursor

/-- Reads on in a block indented to `indent`, where a line may begin; `folds` says whether lines are folded. -/
def blockFrom (folds : Bool) (indent : Nat) : (fuel : Nat) → Block → Block
  | 0, block => block
  | fuel + 1, block =>
    if block.cursor.column ≠ indent || block.cursor.atEnd then block
    else
      let flush := !block.cursor.seesAny isBlank
      let (line, cur) := block.cursor.takeWhile (!isBreak ·)
      let text := block.text ++ block.breaks ++ line
      let (last, cur) : Text × Cursor := match cur.lineBreak? with
        | none => ([], cur)
        | some (c, cur) => ([c], cur)
      let (breaks, cur) := blockBreaks indent (cur.rest.length + 1) [] cur
      if cur.column = indent && !cur.atEnd then
        let joint : Text :=
          if folds && last = ([('\n' : CodePoint)] : Text) && flush && !cur.seesAny isBlank then
            if breaks.isEmpty then " " else []
          else last
        blockFrom folds indent fuel ⟨text ++ joint, last, breaks, cur⟩
      else ⟨text, last, breaks, cur⟩

/-- The block that comes first, behind its sign; it is indented further than `outer`. -/
def blockScalar (folds : Bool) (outer : Int) (cur : Cursor) : Except Fault (Text × Cursor) := do
  let (chomping, digit, cur) ← blockHead cur.next
  let cur ← cur.finishLine
  let least := max 1 (outer + 1).toNat
  let (indent, breaks, cur) : Nat × Text × Cursor :=
    match digit with
    | some d =>
      let indent := least + d - 1
      let (breaks, cur) := blockBreaks indent (cur.rest.length + 1) [] cur
      (indent, breaks, cur)
    | none =>
      let (breaks, column, cur) := blockMargin cur.rest.length [] 0 cur
      (max least column, breaks, cur)
  let block := blockFrom folds indent (cur.rest.length + 1) ⟨[], [], breaks, cur⟩
  let ending : Text := match chomping with
    | .strip => []
    | .clip => block.last
    | .keep => block.last ++ block.breaks
  return (block.text ++ ending, block.cursor)

end FileSieve.Document
