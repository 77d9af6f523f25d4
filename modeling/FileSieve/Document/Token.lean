import FileSieve.Document.Scalar

/-!
# Tokens of a document

The tokens of a document are its indicators and scalars. Indentation becomes tokens as well: a collection in lines has
a beginning and an end like one in brackets. Whether a scalar or a collection is a key shows only by the colon behind
it, so the tokens of a key are put in front of it when the colon comes.
-/

namespace FileSieve.Document

/-- A directive in front of a document. -/
inductive Directive
  /-- The version of the form. -/
  | version (major minor : Nat)
  /-- What a handle of tags stands for. -/
  | handle (name start : Text)
  /-- A directive without effect. -/
  | other
  deriving DecidableEq, Repr

/-- A tag as it is written: a handle, if it has one, and what follows it. -/
structure TagName where
  /-- The handle. -/
  handle : Option Text
  /-- What follows it. -/
  suffix : Text
  deriving DecidableEq, Repr

/-- A token. -/
inductive Token
  /-- A directive. -/
  | directive (d : Directive)
  /-- The beginning of a document. -/
  | documentStart
  /-- The end of a document. -/
  | documentEnd
  /-- The beginning of a sequence in lines. -/
  | blockSequence
  /-- The beginning of a mapping in lines. -/
  | blockMapping
  /-- The end of a collection in lines. -/
  | blockEnd
  /-- The bracket in front of a sequence. -/
  | flowSequence
  /-- The bracket behind a sequence. -/
  | flowSequenceEnd
  /-- The brace in front of a mapping. -/
  | flowMapping
  /-- The brace behind a mapping. -/
  | flowMappingEnd
  /-- The comma between entries in brackets. -/
  | flowEntry
  /-- The hyphen in front of an entry in lines. -/
  | blockEntry
  /-- What comes in front of a key. -/
  | key
  /-- What comes in front of a value. -/
  | value
  /-- A reference to a node by its name. -/
  | reference (name : Text)
  /-- The name of the node that follows. -/
  | anchor (name : Text)
  /-- The tag of the node that follows. -/
  | tag (name : TagName)
  /-- A scalar; `plain` says whether it is without quotes and in no block. -/
  | scalar (text : Text) (plain : Bool)
  deriving DecidableEq, Repr

/-! ### Names, tags and directives -/

/-- The name behind an anchor or a reference. -/
def anchorName (cur : Cursor) : Except Fault (Text × Cursor) :=
  let (name, cur) := cur.next.takeWhile isNamePoint
  if name.isEmpty then .error .malformed
  else if cur.seesEndOr fun c => isGap c || ("?:,]\x7d%@\x60" : Text).contains c then .ok (name, cur)
  else .error .malformed

/-- A code point that stands for itself in the name of a tag. -/
def isTagPoint (c : CodePoint) : Bool :=
  isNamePoint c || (";/?:@&=+$,.!~*'()[]" : Text).contains c

/-- The octets written behind percent signs that come first. -/
def percentOctets : (fuel : Nat) → Cursor → Except Fault (Octets × Cursor)
  | 0, cur => .ok ([], cur)
  | fuel + 1, cur =>
    if cur.sees '%' then
      match cur.next.rest.take 2 with
      | [a, b] =>
        match a.hexValue?, b.hexValue? with
        | some m, some n => do
          let (octets, cur) ← percentOctets fuel (cur.advance 3)
          return (UInt8.ofNat (m * 16 + n) :: octets, cur)
        | _, _ => .error .malformed
      | _ => .error .malformed
    else .ok ([], cur)

/-- The name of a tag that comes first, behind `text`. -/
def tagFrom : (fuel : Nat) → (text : Text) → Cursor → Except Fault (Text × Cursor)
  | 0, text, cur => .ok (text, cur)
  | fuel + 1, text, cur =>
    let (run, cur) := cur.takeWhile isTagPoint
    let text := text ++ run
    if cur.sees '%' then do
      let (octets, cur) ← percentOctets cur.rest.length cur
      match Utf8.decode octets with
      | .ok more => tagFrom fuel (text ++ more) cur
      | .error _ => .error .malformed
    else .ok (text, cur)

/-- The name of a tag, which is not empty. -/
def tagText (cur : Cursor) : Except Fault (Text × Cursor) :=
  if cur.seesAny fun c => isTagPoint c || c = '%' then tagFrom (cur.rest.length + 1) [] cur else .error .malformed

/-- A handle of tags: an exclamation mark, or a name between two. -/
def tagHandle (cur : Cursor) : Except Fault (Text × Cursor) :=
  if !cur.sees '!' then .error .malformed
  else if cur.next.sees ' ' then .ok ("!", cur.next)
  else
    let (name, cur) := cur.next.takeWhile isNamePoint
    if cur.sees '!' then .ok (('!' : CodePoint) :: name ++ [('!' : CodePoint)], cur.next) else .error .malformed

/-- A tag that must be followed by a gap. -/
def endTag (handle : Option Text) (suffix : Text) (cur : Cursor) : Except Fault (TagName × Cursor) :=
  if cur.seesEndOr isSpaceOrBreak then .ok (⟨handle, suffix⟩, cur) else .error .malformed

/-- The tag that comes first. -/
def tagName (cur : Cursor) : Except Fault (TagName × Cursor) :=
  if cur.next.sees '<' then do
    let (suffix, cur) ← tagText (cur.advance 2)
    if cur.sees '>' then endTag none suffix cur.next else .error .malformed
  else if cur.next.seesEndOr isGap then endTag none "!" cur.next
  else if (cur.next.rest.takeWhile (!isSpaceOrBreak ·)).contains ('!' : CodePoint) then do
    let (handle, cur) ← tagHandle cur
    let (suffix, cur) ← tagText cur
    endTag (some handle) suffix cur
  else do
    let (suffix, cur) ← tagText cur.next
    endTag (some "!") suffix cur

/-- A number of a version. -/
def versionNumber (cur : Cursor) : Except Fault (Nat × Cursor) :=
  let (digits, cur) := cur.takeWhile CodePoint.isDigit
  if digits.isEmpty then .error .malformed else .ok (Numeral.value digits, cur)

/-- The directive that comes first. -/
def directive (cur : Cursor) : Except Fault (Directive × Cursor) := do
  let (name, cur) := cur.next.takeWhile isNamePoint
  if name.isEmpty || !cur.seesEndOr isSpaceOrBreak then throw .malformed
  if name = ("YAML" : Text) then
    let (major, cur) ← versionNumber cur.skipSpaces
    if !cur.sees '.' then throw .malformed
    let (minor, cur) ← versionNumber cur.next
    if !cur.seesEndOr isSpaceOrBreak then throw .malformed
    return (.version major minor, ← cur.finishLine)
  else if name = ("TAG" : Text) then
    let (handle, cur) ← tagHandle cur.skipSpaces
    if !cur.sees ' ' then throw .malformed
    let (start, cur) ← tagText cur.skipSpaces
    if !cur.seesEndOr isSpaceOrBreak then throw .malformed
    return (.handle handle start, ← cur.finishLine)
  else return (.other, ← (cur.skipWhile (!isBreak ·)).finishLine)

/-! ### Reading tokens -/

/-- A place where a key may have begun. -/
structure KeyStart where
  /-- How many tokens come before the key. -/
  number : Nat
  /-- Whether a key must begin there. -/
  required : Bool
  /-- The place. -/
  cursor : Cursor
  deriving Repr

/-- What has been read of the tokens. -/
structure Reader where
  /-- The place. -/
  cursor : Cursor
  /-- The tokens before it, the last one first. -/
  tokens : List Token := []
  /-- The column of the innermost collection in lines; less than zero outside of all. -/
  indent : Int := -1
  /-- The columns of those around it. -/
  indents : List Int := []
  /-- How many brackets are open. -/
  depth : Nat := 0
  /-- Whether a key may begin. -/
  keyAllowed : Bool := true
  /-- Where keys may have begun, with the number of brackets around them. -/
  keys : List (Nat × KeyStart) := []
  deriving Repr

namespace Reader

/-- Whether the place is within brackets. -/
def inBrackets (r : Reader) : Bool :=
  r.depth != 0

/-- The reader behind one more token. -/
def push (token : Token) (r : Reader) : Reader :=
  { r with tokens := token :: r.tokens }

/-- The reader with a token that has `number` tokens before it. -/
def insert (number : Nat) (token : Token) (r : Reader) : Reader :=
  { r with tokens := r.tokens.insertIdx (r.tokens.length - number) token }

/-- The reader at another place. -/
def moveTo (r : Reader) (cursor : Cursor) : Reader :=
  { r with cursor }

/-- The reader that allows a key to begin, or not. -/
def allowKey (allowed : Bool) (r : Reader) : Reader :=
  { r with keyAllowed := allowed }

/-- Whether a key that began at a place can no longer end here: it is in one line, and not too long. -/
def isStale (r : Reader) (start : KeyStart) : Bool :=
  start.cursor.line != r.cursor.line || start.cursor.index + 1024 < r.cursor.index

/-- The reader without the keys that can no longer end. -/
def dropStale (r : Reader) : Except Fault Reader :=
  if r.keys.any fun (_, start) => r.isStale start && start.required then .error .malformed
  else .ok { r with keys := r.keys.filter fun (_, start) => !r.isStale start }

/-- The key that may have begun within the innermost brackets. -/
def key? (r : Reader) : Option KeyStart :=
  r.keys.lookup r.depth

/-- The reader without the key that may have begun within the innermost brackets. -/
def forgetKey (r : Reader) : Reader :=
  { r with keys := r.keys.filter fun (depth, _) => depth != r.depth }

/-- Gives up the key that may have begun within the innermost brackets. -/
def giveUpKey (r : Reader) : Except Fault Reader :=
  if r.key?.any (·.required) then .error .malformed else .ok r.forgetKey

/-- A key may begin here, if keys are allowed; it must where the innermost mapping in lines goes on. -/
def beginKey (r : Reader) : Except Fault Reader :=
  if !r.keyAllowed then .ok r
  else do
    let required := !r.inBrackets && r.indent = r.cursor.column
    let r ← r.giveUpKey
    return { r with keys := (r.depth, ⟨r.tokens.length, required, r.cursor⟩) :: r.keys }

/-- Ends the collections in lines that are indented further than a column, of `outer` around the innermost one. -/
def unwindFrom (column : Int) : (outer : List Int) → Reader → Reader
  | [], r => r
  | indent :: outer, r =>
    if column < r.indent then
      unwindFrom column outer { r with indent, indents := outer, tokens := .blockEnd :: r.tokens }
    else r

/-- Ends the collections in lines that are indented further than a column. -/
def unwind (column : Int) (r : Reader) : Reader :=
  if r.inBrackets then r else unwindFrom column r.indents r

/-- Begins a collection in lines at a column, unless it goes on there; its token has `number` tokens before it. -/
def beginBlock (column : Nat) (number : Nat) (token : Token) (r : Reader) : Reader :=
  if r.indent < column then { (r.insert number token) with indent := column, indents := r.indent :: r.indents } else r

/-- The place of the next token: behind spaces, comments and ends of lines. Outside of brackets a key may begin in a
new line. -/
def skipToToken : (fuel : Nat) → Reader → Reader
  | 0, r => r
  | fuel + 1, r =>
    let cur := r.cursor.skipSpaces.skipComment
    match cur.lineBreak? with
    | none => r.moveTo cur
    | some (_, cur) => skipToToken fuel ((r.moveTo cur).allowKey (r.keyAllowed || !r.inBrackets))

/-- A token of `width` code points. -/
def indicator (token : Token) (width : Nat) (r : Reader) : Reader :=
  (r.moveTo (r.cursor.advance width)).push token

/-- A separator of documents ends all collections in lines. -/
def separator (token : Token) (r : Reader) : Except Fault Reader := do
  let r ← (r.unwind (-1)).giveUpKey
  return (r.allowKey false).indicator token 3

/-- A directive. -/
def readDirective (r : Reader) : Except Fault Reader := do
  let r ← (r.unwind (-1)).giveUpKey
  let (d, cur) ← directive r.cursor
  return ((r.allowKey false).moveTo cur).push (.directive d)

/-- A bracket that opens. -/
def openBracket (token : Token) (r : Reader) : Except Fault Reader := do
  let r ← r.beginKey
  return ({ r with depth := r.depth + 1 }.allowKey true).indicator token 1

/-- A bracket that closes. -/
def closeBracket (token : Token) (r : Reader) : Except Fault Reader := do
  let r ← r.giveUpKey
  return ({ r with depth := r.depth - 1 }.allowKey false).indicator token 1

/-- A comma. -/
def comma (r : Reader) : Except Fault Reader := do
  let r ← r.giveUpKey
  return (r.allowKey true).indicator .flowEntry 1

/-- Begins a collection in lines here, which must be where a key may begin. -/
def beginBlockHere (token : Token) (r : Reader) : Except Fault Reader :=
  if r.inBrackets then .ok r
  else if !r.keyAllowed then .error .malformed
  else .ok (r.beginBlock r.cursor.column r.tokens.length token)

/-- A hyphen in front of an entry. -/
def hyphen (r : Reader) : Except Fault Reader := do
  let r ← (← r.beginBlockHere .blockSequence).giveUpKey
  return (r.allowKey true).indicator .blockEntry 1

/-- A question mark in front of a key. -/
def questionMark (r : Reader) : Except Fault Reader := do
  let r ← (← r.beginBlockHere .blockMapping).giveUpKey
  return (r.allowKey (!r.inBrackets)).indicator .key 1

/-- A colon in front of a value: behind a key that began before, or without one. -/
def colon (r : Reader) : Except Fault Reader :=
  match r.key? with
  | some start =>
    let r := r.forgetKey.insert start.number .key
    let r := if r.inBrackets then r else r.beginBlock start.cursor.column start.number .blockMapping
    .ok ((r.allowKey false).indicator .value 1)
  | none => do
    let r ← (← r.beginBlockHere .blockMapping).giveUpKey
    return (r.allowKey (!r.inBrackets)).indicator .value 1

/-- A token that may be a key, or come in front of one. -/
def keyToken (read : Cursor → Except Fault (Token × Cursor)) (r : Reader) : Except Fault Reader := do
  let r ← r.beginKey
  let (token, cur) ← read r.cursor
  return ((r.allowKey false).moveTo cur).push token

/-- A block of lines. -/
def block (folds : Bool) (r : Reader) : Except Fault Reader := do
  let r ← (r.allowKey true).giveUpKey
  let (text, cur) ← blockScalar folds r.indent r.cursor
  return (r.moveTo cur).push (.scalar text false)

/-- A plain scalar; a key may begin behind it when a line has ended. -/
def plain (r : Reader) : Except Fault Reader := do
  let r ← r.beginKey
  let (text, gap) := plainScalar r.inBrackets (r.indent + 1).toNat r.cursor
  return ((r.allowKey gap.crossesLine).moveTo gap.cursor).push (.scalar text true)

/-- Whether a plain scalar can begin with `c`, behind which `next` comes. -/
def beginsPlain (r : Reader) (c : CodePoint) (next : Option CodePoint) : Bool :=
  !(isGap c || ("-?:,[]\x7b\x7d#&*!|>'\"%@\x60" : Text).contains c) ||
    (next.any (!isGap ·) && (c = '-' || (!r.inBrackets && (c = '?' || c = ':'))))

/-- Reads the token that begins with `c`. -/
def readToken (c : CodePoint) (r : Reader) : Except Fault Reader :=
  let next := r.cursor.second?
  let first := r.cursor.column = 0
  if c = '%' && first then r.readDirective
  else if first && beginsWithMarks '-' r.cursor.rest then r.separator .documentStart
  else if first && beginsWithMarks '.' r.cursor.rest then r.separator .documentEnd
  else if c = '[' then r.openBracket .flowSequence
  else if c = '\x7b' then r.openBracket .flowMapping
  else if c = ']' then r.closeBracket .flowSequenceEnd
  else if c = '\x7d' then r.closeBracket .flowMappingEnd
  else if c = ',' then r.comma
  else if c = '-' && next.all isGap then r.hyphen
  else if c = '?' && (r.inBrackets || next.all isGap) then r.questionMark
  else if c = ':' && (r.inBrackets || next.all isGap) then r.colon
  else if c = '*' then r.keyToken fun cur => (anchorName cur).map fun (name, cur) => (.reference name, cur)
  else if c = '&' then r.keyToken fun cur => (anchorName cur).map fun (name, cur) => (.anchor name, cur)
  else if c = '!' then r.keyToken fun cur => (tagName cur).map fun (name, cur) => (.tag name, cur)
  else if c = '|' && !r.inBrackets then r.block false
  else if c = '>' && !r.inBrackets then r.block true
  else if c = '\'' then r.keyToken fun cur => (quotedScalar false cur).map fun (text, cur) => (.scalar text false, cur)
  else if c = '"' then r.keyToken fun cur => (quotedScalar true cur).map fun (text, cur) => (.scalar text false, cur)
  else if r.beginsPlain c next then r.plain
  else .error .malformed

/-- The tokens that are certain although reading goes no further: those before every place where a key may have
begun. -/
def certain (r : Reader) : List Token :=
  let count := r.keys.foldl (fun n (_, start) => min n start.number) r.tokens.length
  r.tokens.reverse.take count

/-- Reads the tokens to the end of the document, or up to the fault that is given with them. -/
def readAll : (fuel : Nat) → Reader → List Token × Option Fault
  | 0, r => (r.certain, some .malformed)
  | fuel + 1, r =>
    let r := r.skipToToken (r.cursor.rest.length + 1)
    match r.dropStale with
    | .error e => (r.certain, some e)
    | .ok r =>
      let r := r.unwind r.cursor.column
      match r.cursor.head? with
      | none =>
        match (r.unwind (-1)).giveUpKey with
        | .error e => (r.certain, some e)
        | .ok r => (r.tokens.reverse, none)
      | some c =>
        match r.readToken c with
        | .error e => (r.certain, some e)
        | .ok r => readAll fuel r

end Reader

/-- The tokens of a document, up to its first fault if it has one. A byte order mark in front does not count. -/
def tokens (t : Text) : List Token × Option Fault :=
  let start : Cursor := { rest := t }
  let start := if start.sees (CodePoint.ofNat 0xFEFF) then start.next else start
  Reader.readAll (t.length + 1) { cursor := start }

end FileSieve.Document
