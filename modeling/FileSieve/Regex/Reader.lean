import FileSieve.Regex.Fault
import FileSieve.Regex.Token
import FileSieve.Regex.Width
import FileSieve.Text.CharName
import FileSieve.Text.Identifier

/-!
# Reading a pattern

The tree of a pattern, or the first fault of it from the left. `Reading` is what is known at a place of the
pattern: the tokens that follow, the groups so far, and the mode that switches at the start have chosen.

Reading descends into groups, and each step takes a token or enters a group, so a fuel of thrice the
pattern's length never runs out; groups deeper than `maxDepth` are refused before.
-/

namespace FileSieve.Regex

/-- How deep groups may stand within groups. -/
def maxDepth : Nat := 490

/-- What is known at a place of the pattern. -/
structure Reading where
  /-- The tokens from here on; never a dangling backslash at the front. -/
  rest : List Token
  /-- The place of the next token. -/
  place : Nat
  /-- The length of the whole pattern. -/
  length : Nat
  /-- The lengths of the groups by number, none while a group is open. -/
  widths : List (Option Width) := []
  /-- The groups that have names. -/
  names : List (Text × Nat) := []
  /-- The number of groups where the outermost look-behind around this place began. -/
  behind : Option Nat := none
  /-- The groups that conditionals ask for, each with the first place. -/
  conditions : List (Nat × Nat) := []
  /-- The mode of the whole pattern. -/
  mode : Mode := {}

namespace Reading

/-- A fault `back` code points before the next token. -/
def fail {α : Type} (r : Reading) (cause : SyntaxFault) (back : Nat) : Except Fault α :=
  .error (.malformed cause (r.place - back))

/-- The pattern behind the next token. A dangling backslash is found as soon as it is next. -/
def advance (r : Reading) : Except Fault Reading :=
  match r.rest with
  | [] => .ok r
  | token :: rest =>
    match rest with
    | .dangling :: _ => .error (.malformed .danglingBackslash (r.length - 1))
    | _ => .ok { r with rest, place := r.place + token.width }

/-- The start of a pattern. -/
def start (pattern : Text) (mode : Mode) : Except Fault Reading :=
  match Token.ofText pattern with
  | .dangling :: _ => .error (.malformed .danglingBackslash (pattern.length - 1))
  | rest => .ok { rest, place := 0, length := pattern.length, mode }

/-- Whether the code point `c` is next. -/
def isNext (r : Reading) (c : CodePoint) : Bool :=
  match r.rest with
  | .plain d :: _ => d == c
  | _ => false

/-- Whether the code point `c` was next; then it is taken. -/
def accept (r : Reading) (c : CodePoint) : Except Fault (Bool × Reading) :=
  if r.isNext c then do return (true, ← r.advance) else .ok (false, r)

/-- The next token, taken. -/
def take (r : Reading) : Except Fault (Option Token × Reading) := do
  return (r.rest.head?, ← r.advance)

/-- At most `count` code points of a class, taken. -/
def takeWhile (p : CodePoint → Bool) : (count : Nat) → Reading → Except Fault (Text × Reading)
  | 0, r => .ok ([], r)
  | count + 1, r =>
    match r.rest with
    | .plain c :: _ =>
      if p c then do
        let (cs, r) ← takeWhile p count (← r.advance)
        return (c :: cs, r)
      else .ok ([], r)
    | _ => .ok ([], r)

/-- All digits that follow, taken. -/
def takeDigits (r : Reading) : Except Fault (Text × Reading) :=
  takeWhile CodePoint.isDigit r.rest.length r

/-- The text up to `terminator`, with `name` before it so far; `fuel` bounds the tokens. -/
def takeUntil (terminator : CodePoint) (what : Text) :
    (fuel : Nat) → (name : Text) → Reading → Except Fault (Text × Reading)
  | 0, _, r => r.fail (.missingName what) 0
  | fuel + 1, name, r => do
    let (token, r) ← r.take
    match token with
    | none =>
      if name.isEmpty then r.fail (.missingName what) 0 else r.fail (.unterminatedName terminator) name.length
    | some token =>
      if token = .plain terminator then
        if name.isEmpty then r.fail (.missingName what) 1 else .ok (name, r)
      else takeUntil terminator what fuel (name ++ token.text) r

/-- A name up to `terminator`, which is taken too. -/
def takeName (r : Reading) (terminator : CodePoint) (what : Text) : Except Fault (Text × Reading) :=
  takeUntil terminator what (r.rest.length + 1) [] r

/-- The number that the next group gets. -/
def nextGroup (r : Reading) : Nat :=
  r.widths.length + 1

/-- Whether a group has been closed. -/
def isClosed (r : Reading) (index : Nat) : Bool :=
  0 < index && ((r.widths[index - 1]?).join).isSome

/-- Within a look-behind only groups that were closed before it may be asked for. -/
def checkLookbehind (r : Reading) (index : Nat) : Except Fault Unit :=
  match r.behind with
  | none => .ok ()
  | some limit =>
    if !r.isClosed index then r.fail .openGroup 0
    else if limit ≤ index then r.fail .groupOfLookbehind 0
    else .ok ()

/-! ### Escapes -/

/-- What an escape stands for. -/
inductive Escape
  /-- A code point. -/
  | point (c : CodePoint)
  /-- A class of characters. -/
  | category (cat : Category) (negated : Bool)
  /-- A condition on the place. -/
  | anchor (kind : Anchor)
  /-- A group's text. -/
  | backref (index : Nat)
  deriving DecidableEq, Repr

/-- The letters that stand for control characters. -/
def control? (c : CodePoint) : Option CodePoint :=
  if c = 'a' then some '\x07'
  else if c = 'f' then some '\x0c'
  else if c = 'n' then some '\n'
  else if c = 'r' then some '\r'
  else if c = 't' then some '\t'
  else if c = 'v' then some '\x0b'
  else none

/-- The letters that stand for classes. -/
def category? (c : CodePoint) : Option (Category × Bool) :=
  if c = 'd' then some (.digit, false)
  else if c = 'D' then some (.digit, true)
  else if c = 's' then some (.space, false)
  else if c = 'S' then some (.space, true)
  else if c = 'w' then some (.word, false)
  else if c = 'W' then some (.word, true)
  else none

/-- The letters that stand for conditions on the place. -/
def anchor? (c : CodePoint) : Option Anchor :=
  if c = 'A' then some .textStart
  else if c = 'b' then some .boundary
  else if c = 'B' then some .notBoundary
  else if c = 'Z' then some .textEnd
  else none

/-- The value of digits in a base. -/
def valueOf (base : Nat) (digits : Text) : Nat :=
  digits.foldl (fun n c => n * base + c.hexValue?.getD 0) 0

/-- A code point by exactly `count` hexadecimal digits; `c` is the letter of the escape. -/
def hexEscape (r : Reading) (c : CodePoint) (count : Nat) : Except Fault (CodePoint × Reading) := do
  let (digits, r) ← r.takeWhile CodePoint.isHexDigit count
  let escape : Text := ('\\' : CodePoint) :: c :: digits
  if digits.length ≠ count then r.fail (.incompleteEscape escape) escape.length
  else
    let n := valueOf 16 digits
    if h : n < 0x110000 then return (⟨n, h⟩, r) else r.fail (.badEscape escape) escape.length

/-- A code point by its name between braces. -/
def nameEscape (r : Reading) : Except Fault (CodePoint × Reading) := do
  let (braced, r) ← r.accept '\x7b'
  if !braced then r.fail .missingBrace 0
  else
    let (name, r) ← r.takeName '\x7d' "character name"
    match CodePoint.ofName? name with
    | some c => return (c, r)
    | none =>
      if name.any CodePoint.isSurrogate then r.fail (.badEscape "\\N") 2
      else r.fail (.unknownCharacter name) (name.length + 4)

/-- A code point by octal digits, at most U+00FF. -/
def octalEscape (r : Reading) (digits : Text) : Except Fault (CodePoint × Reading) :=
  let escape : Text := ('\\' : CodePoint) :: digits
  if 0xFF < valueOf 8 digits then r.fail (.octalTooLarge escape) escape.length
  else .ok (CodePoint.ofNat (valueOf 8 digits), r)

/-- An escape that means nothing of its own: letters are kept for the future. -/
def plainEscape (r : Reading) (c : CodePoint) : Except Fault (CodePoint × Reading) :=
  if c.isAsciiLetter then r.fail (.badEscape ['\\', c]) 2 else .ok (c, r)

/-- The escapes that mean the same in and outside a set: by number, by name, or the code point itself. -/
def commonEscape (r : Reading) (c : CodePoint) : Except Fault (CodePoint × Reading) :=
  if c = 'x' then r.hexEscape c 2
  else if c = 'u' then r.hexEscape c 4
  else if c = 'U' then r.hexEscape c 8
  else if c = 'N' then r.nameEscape
  else r.plainEscape c

/-- An escape within a set; `c` is the code point behind the backslash, which has been taken. -/
def setEscape (r : Reading) (c : CodePoint) : Except Fault (SetItem × Reading) :=
  if c = 'b' then .ok (.point '\x08', r)
  else match control? c, category? c with
    | some d, _ => .ok (.point d, r)
    | none, some (cat, negated) => .ok (.category cat negated, r)
    | none, none => do
      if c.isOctalDigit then
        let (digits, r) ← r.takeWhile CodePoint.isOctalDigit 2
        let (d, r) ← r.octalEscape (c :: digits)
        return (.point d, r)
      else if c.isDigit then r.fail (.badEscape ['\\', c]) 2
      else
        let (d, r) ← r.commonEscape c
        return (.point d, r)

/-- A group by its one or two digits. -/
def groupEscape (r : Reading) (digits : Text) : Except Fault (Escape × Reading) :=
  let index := Numeral.value digits
  if index < r.nextGroup then
    if !r.isClosed index then r.fail .openGroup (digits.length + 1)
    else do
      r.checkLookbehind index
      return (.backref index, r)
  else r.fail (.invalidGroup index) digits.length

/-- Three octal digits are a code point; other digits, the first one not zero, are a group. -/
def digitEscape (r : Reading) (c : CodePoint) : Except Fault (Escape × Reading) := do
  if c = '0' then
    let (digits, r) ← r.takeWhile CodePoint.isOctalDigit 2
    return (.point (CodePoint.ofNat (valueOf 8 digits)), r)
  else
    let (second, r) ← r.takeWhile CodePoint.isDigit 1
    if c.isOctalDigit && !second.isEmpty && second.all CodePoint.isOctalDigit then
      let (third, r) ← r.takeWhile CodePoint.isOctalDigit 1
      if third.isEmpty then r.groupEscape (c :: second)
      else
        let (d, r) ← r.octalEscape (c :: second ++ third)
        return (.point d, r)
    else r.groupEscape (c :: second)

/-- An escape outside a set; `c` is the code point behind the backslash, which has been taken. -/
def escape (r : Reading) (c : CodePoint) : Except Fault (Escape × Reading) :=
  match anchor? c, category? c, control? c with
  | some kind, _, _ => .ok (.anchor kind, r)
  | none, some (cat, negated), _ => .ok (.category cat negated, r)
  | none, none, some d => .ok (.point d, r)
  | none, none, none =>
    if c.isDigit then r.digitEscape c
    else do
      let (d, r) ← r.commonEscape c
      return (.point d, r)

/-- The node of an escape. -/
def Escape.node : Escape → Node
  | .point c => .char (.point false c)
  | .category cat negated => .char (.oneOf false [.category cat negated])
  | .anchor kind => .anchor kind
  | .backref index => .backref index

/-! ### Sets -/

/-- One entry of a set from a token that has been taken. -/
def setEntry (r : Reading) : Token → Except Fault (SetItem × Reading)
  | .escaped c => r.setEscape c
  | .plain c => .ok (.point c, r)
  | .dangling => r.fail .danglingBackslash 1

/-- A range between two entries that were read from the tokens `lo` and `hi`. -/
def setRange (r : Reading) (lo hi : Token) (a b : SetItem) : Except Fault SetItem :=
  let back := lo.width + 1 + hi.width
  match a, b with
  | .point a, .point b =>
    if b < a then r.fail (.badRange lo.text hi.text) back else .ok (.range a b)
  | _, _ => r.fail (.badRange lo.text hi.text) back

/-- The entries of a set that begins at the place `opening`, in reverse order behind those of `items`. -/
def setItems (opening : Nat) : (fuel : Nat) → (items : List SetItem) → Reading → Except Fault (List SetItem × Reading)
  | 0, _, _ => .error (.malformed .unterminatedSet opening)
  | fuel + 1, items, r => do
    let (token, r) ← r.take
    match token with
    | none => .error (.malformed .unterminatedSet opening)
    | some token =>
      if token = .plain ']' && !items.isEmpty then return (items, r)
      else
        let (entry, r) ← r.setEntry token
        let (dash, r) ← r.accept '-'
        if !dash then setItems opening fuel (entry :: items) r
        else
          let (last, r) ← r.take
          match last with
          | none => .error (.malformed .unterminatedSet opening)
          | some last =>
            if last = .plain ']' then return (.point '-' :: entry :: items, r)
            else
              let (entry', r) ← r.setEntry last
              let range ← r.setRange token last entry entry'
              setItems opening fuel (range :: items) r

/-- A set whose opening bracket at the place `opening` has been taken. A set of one code point is that code
point. -/
def set (r : Reading) (opening : Nat) : Except Fault (CharTest × Reading) := do
  let (negated, r) ← r.accept '^'
  let (items, r) ← setItems opening (r.rest.length + 1) [] r
  match items.reverse.eraseDups with
  | [.point c] => return (.point negated c, r)
  | items => return (.oneOf negated items, r)

/-! ### Repetitions -/

/-- A count between braces; none without digits. -/
def count (digits : Text) : Except Fault (Option Nat) :=
  if digits.isEmpty then .ok none
  else if digits.length > maxDigits then .error (.countTooLong digits.length)
  else
    let n := Numeral.value digits
    if maxCount ≤ n then .error .countTooLarge else .ok (some n)

/-- The digits of the greatest count: behind a comma its own, else those of the least count. -/
def highDigits (r : Reading) (comma : Bool) (low : Text) : Except Fault (Text × Reading) :=
  if comma then r.takeDigits else .ok (low, r)

/-- The counts of a repetition whose operator `c` has been taken; none when a brace stands for itself. -/
def counts (r : Reading) (c : CodePoint) : Except Fault (Option (Nat × Option Nat) × Reading) := do
  if c = '?' then return (some (0, some 1), r)
  else if c = '*' then return (some (0, none), r)
  else if c = '+' then return (some (1, none), r)
  else if r.isNext '\x7d' then return (none, r)
  else
    let (low, s) ← r.takeDigits
    let (comma, s) ← s.accept ','
    let (high, s) ← s.highDigits comma low
    let (closed, s) ← s.accept '\x7d'
    if !closed then return (none, r)
    else
      let min ← count low
      let max ← count high
      match max with
      | some n => if n < min.getD 0 then r.fail .minAboveMax 0 else return (some (min.getD 0, max), s)
      | none => return (some (min.getD 0, none), s)

/-- How the repetition goes on its counts, by a question mark or a plus sign behind it. -/
def greed (r : Reading) : Except Fault (Greed × Reading) := do
  let (lazy, r) ← r.accept '?'
  if lazy then return (.lazy, r)
  else
    let (possessive, r) ← r.accept '+'
    return (if possessive then .possessive else .greedy, r)

/-- The last node repeated; the operator stands at the place `operator`. -/
def repeatLast (r : Reading) (operator : Nat) (min : Nat) (max : Option Nat) :
    List Node → Except Fault (List Node × Reading)
  | [] => .error (.malformed .nothingToRepeat operator)
  | .anchor _ :: _ => .error (.malformed .nothingToRepeat operator)
  | .repeated _ _ _ _ :: _ => .error (.malformed .multipleRepeat operator)
  | node :: nodes => do
    let (greed, r) ← r.greed
    return (.repeated greed min max node :: nodes, r)

/-! ### Switches -/

/-- The switch of a letter. -/
def switch? (c : CodePoint) : Option Mode :=
  if c = 'i' then some { ignoreCase := true }
  else if c = 'm' then some { multiline := true }
  else if c = 's' then some { dotAll := true }
  else if c = 'x' then some { verbose := true }
  else if c = 'a' then some { ascii := true }
  else if c = 'u' then some { unicode := true }
  else if c = 't' then some { template := true }
  else none

/-- The letters that are switches, the one among them that text patterns refuse included. -/
def isSwitch (c : CodePoint) : Bool :=
  (switch? c).isSome || c == 'L'

/-- The fault at a token that is neither a switch nor what may end the switches. -/
def badSwitch {α : Type} (r : Reading) (token : Option Token) (missing : Text) : Except Fault α :=
  match token with
  | none => r.fail (.missingAfterSwitches missing) 0
  | some token =>
    let isLetter := match token with
      | .plain c => c.isLetter
      | _ => false
    r.fail (if isLetter then .unknownSwitch else .missingAfterSwitches missing) token.width

/-- Switches to turn on, `c` the first; with them the code point that ends them. -/
def switchesOn : (fuel : Nat) → (on : Mode) → (c : CodePoint) → Reading → Except Fault (Mode × CodePoint × Reading)
  | 0, _, _, r => r.fail (.missingAfterSwitches "-, : or )") 0
  | fuel + 1, on, c, r => do
    match switch? c with
    | none => r.fail (.badSwitches "cannot use 'L' flag with a str pattern") 0
    | some switch =>
      let on := on.union switch
      if (switch.ascii || switch.unicode) && on.ascii && on.unicode then
        r.fail (.badSwitches "flags 'a', 'u' and 'L' are incompatible") 0
      else
        let (token, r) ← r.take
        match token with
        | some (.plain d) =>
          if d = ')' || d = '-' || d = ':' then return (on, d, r)
          else if isSwitch d then switchesOn fuel on d r
          else r.badSwitch token "-, : or )"
        | _ => r.badSwitch token "-, : or )"

/-- Switches to turn off, `c` the first, up to the colon. -/
def switchesOff : (fuel : Nat) → (off : Mode) → (c : CodePoint) → Reading → Except Fault (Mode × Reading)
  | 0, _, _, r => r.fail (.missingAfterSwitches ":") 0
  | fuel + 1, off, c, r => do
    match switch? c with
    | none => r.fail (.badSwitches "cannot turn off flags 'a', 'u' and 'L'") 0
    | some switch =>
      if switch.ascii || switch.unicode then r.fail (.badSwitches "cannot turn off flags 'a', 'u' and 'L'") 0
      else
        let off := off.union switch
        let (token, r) ← r.take
        match token with
        | some (.plain d) =>
          if d = ':' then return (off, r)
          else if isSwitch d then switchesOff fuel off d r
          else r.badSwitch token ":"
        | _ => r.badSwitch token ":"

/-- The switches to turn on, none where `c` is the dash already, and the code point that ends them. -/
def leadingSwitches (r : Reading) (c : CodePoint) : Except Fault (Mode × CodePoint × Reading) :=
  if c = '-' then .ok ({}, c, r) else switchesOn (r.rest.length + 1) {} c r

/-- The switches to turn off, none unless `c` is the dash. -/
def trailingSwitches (r : Reading) (c : CodePoint) : Except Fault (Mode × Reading) :=
  if c = '-' then do
    let (token, r) ← r.take
    match token with
    | some (.plain d) =>
      if isSwitch d then switchesOff (r.rest.length + 1) {} d r else r.badSwitch token "flag"
    | _ => r.badSwitch token "flag"
  else .ok ({}, r)

/-- Switches behind an opening parenthesis and question mark, `c` the first code point of them: for the
whole pattern without a change, for a group with one. -/
def switches (r : Reading) (c : CodePoint) : Except Fault (Option ModeChange × Reading) := do
  let (on, c, r) ← r.leadingSwitches c
  if c = ')' then return (none, { r with mode := r.mode.union on })
  else if on.template then r.fail (.badSwitches "cannot turn on global flag") 1
  else
    let (off, r) ← r.trailingSwitches c
    if off.template then r.fail (.badSwitches "cannot turn off global flag") 1
    else if on.meets off then r.fail (.badSwitches "flag turned on and off") 1
    else return (some ⟨on, off⟩, r)

/-! ### Groups -/

/-- What an opening parenthesis begins. -/
inductive Opening
  /-- A group that keeps its text, perhaps under a name. -/
  | capture (name : Option Text)
  /-- A group that may change the mode. -/
  | scoped (change : ModeChange)
  /-- A group that is not gone back on. -/
  | atomic
  /-- A condition on the text around the place. -/
  | look (behind negated : Bool)
  /-- A choice by whether a group has matched. -/
  | conditional (index : Nat)
  /-- A comment, which stands for nothing. -/
  | comment
  /-- A reference to a named group. -/
  | backref (index : Nat)
  /-- Switches for the whole pattern. -/
  | global
  deriving DecidableEq, Repr

/-- Skips a comment between parentheses that opened at the place `opening`. -/
def skipRemark (opening : Nat) : (fuel : Nat) → Reading → Except Fault Reading
  | 0, _ => .error (.malformed .unterminatedComment opening)
  | fuel + 1, r =>
    if r.rest.isEmpty then .error (.malformed .unterminatedComment opening)
    else do
      let closing := r.isNext ')'
      let r ← r.advance
      if closing then return r else skipRemark opening fuel r

/-- A name for a group or a reference, up to `terminator`. -/
def groupName (r : Reading) (terminator : CodePoint) : Except Fault (Text × Reading) := do
  let (name, r) ← r.takeName terminator "group name"
  if name.isIdentifier then return (name, r) else r.fail (.badGroupName name) (name.length + 1)

/-- The number of the group with a name. -/
def namedGroup (r : Reading) (name : Text) : Except Fault Nat :=
  match r.names.lookup name with
  | some index => .ok index
  | none => r.fail (.unknownGroup name) (name.length + 1)

/-- Forms of a group that start with the letter P. -/
def namedForm (r : Reading) : Except Fault (Opening × Reading) := do
  let (named, r) ← r.accept '<'
  if named then
    let (name, r) ← r.groupName '>'
    return (.capture (some name), r)
  else
    let (reference, r) ← r.accept '='
    if reference then
      let (name, r) ← r.groupName ')'
      let index ← r.namedGroup name
      if !r.isClosed index then r.fail .openGroup (name.length + 1)
      else
        r.checkLookbehind index
        return (.backref index, r)
    else
      let (token, r) ← r.take
      match token with
      | none => r.fail .unexpectedEnd 0
      | some token => r.fail (.unknownExtension ("?P" ++ token.text)) (token.width + 2)

/-- The group that a conditional asks for, by its name or its number. -/
def askedGroup (r : Reading) (name : Text) : Except Fault Nat :=
  if name.isIdentifier then r.namedGroup name
  else match name.toInt with
    | .error _ => r.fail (.badGroupName name) (name.length + 1)
    | .ok n =>
      if n < 0 then r.fail (.badGroupName name) (name.length + 1)
      else if n = 0 then r.fail .zeroGroup (name.length + 1)
      else if n ≥ 1073741823 then r.fail (.invalidGroup n) (name.length + 1)
      else .ok n.toNat

/-- A conditional, by the name or the number of a group. -/
def condition (r : Reading) : Except Fault (Opening × Reading) := do
  let (name, r) ← r.takeName ')' "group name"
  let index ← r.askedGroup name
  let conditions :=
    if name.isIdentifier || (r.conditions.lookup index).isSome then r.conditions
    else r.conditions ++ [(index, r.place - name.length - 1)]
  let r := { r with conditions }
  r.checkLookbehind index
  return (.conditional index, r)

/-- What a parenthesis at the place `opening` begins; the parenthesis has been taken. -/
def opening (r : Reading) (opening : Nat) : Except Fault (Opening × Reading) := do
  let (extended, r) ← r.accept '?'
  if !extended then return (.capture none, r)
  else
    let (token, r) ← r.take
    match token with
    | none => r.fail .unexpectedEnd 0
    | some token =>
      match token with
      | .plain c =>
        if c = 'P' then r.namedForm
        else if c = ':' then return (.scoped {}, r)
        else if c = '#' then
          let r ← skipRemark opening (r.rest.length + 1) r
          return (.comment, r)
        else if c = '=' then return (.look false false, r)
        else if c = '!' then return (.look false true, r)
        else if c = '<' then
          let (token, r) ← r.take
          match token with
          | none => r.fail .unexpectedEnd 0
          | some token =>
            if token = .plain '=' then return (.look true false, r)
            else if token = .plain '!' then return (.look true true, r)
            else r.fail (.unknownExtension ("?<" ++ token.text)) (token.width + 2)
        else if c = '(' then r.condition
        else if c = '>' then return (.atomic, r)
        else if isSwitch c || c = '-' then
          let (change, r) ← r.switches c
          return (match change with | some change => .scoped change | none => .global, r)
        else r.fail (.unknownExtension ['?', c]) 2
      | token => r.fail (.unknownExtension (('?' : CodePoint) :: token.text)) (token.width + 1)

/-- The number of a new group, which is open from here on. -/
def openGroup (r : Reading) (name : Option Text) : Except Fault (Nat × Reading) :=
  let index := r.nextGroup
  let r' := { r with widths := r.widths ++ [none] }
  match name with
  | none => .ok (index, r')
  | some name =>
    match r.names.lookup name with
    | some old => r.fail (.redefinedGroup name index old) (name.length + 1)
    | none => .ok (index, { r' with names := r.names ++ [(name, index)] })

/-- The reading after a group is closed. -/
def closeGroup (r : Reading) (index : Nat) (body : Node) : Reading :=
  { r with widths := r.widths.set (index - 1) (some (body.width r.widths)) }

/-- The closing parenthesis of what began at the place `opening`. -/
def closing (r : Reading) (opening : Nat) : Except Fault Reading := do
  let (closed, r) ← r.accept ')'
  if closed then return r else .error (.malformed .unterminatedGroup opening)

/-- Skips a comment up to the end of the line, which is taken too. -/
def skipLine : (fuel : Nat) → Reading → Except Fault Reading
  | 0, r => .ok r
  | fuel + 1, r => do
    let (token, r) ← r.take
    if token.isNone || token = some (.plain '\n') then return r else skipLine fuel r

mutual

/-- The branches between vertical bars. `depth` counts the groups around, and `whole` holds at the start of
the whole pattern. -/
def choice : (fuel : Nat) → (verbose : Bool) → (depth : Nat) → (whole : Bool) → Reading →
    Except Fault (Node × Reading)
  | 0, _, _, _, _ => .error .tooDeep
  | fuel + 1, verbose, depth, whole, r => do
    let (first, r) ← items fuel verbose depth whole [] r
    if r.isNext '|' then
      let r ← r.advance
      let (second, r) ← choice fuel (if depth = 0 then r.mode.verbose else verbose) depth false r
      return (.either first second, r)
    else return (first, r)

/-- The nodes one after the other up to the end of a branch, behind those of `nodes`, which are in reverse
order. -/
def items : (fuel : Nat) → (verbose : Bool) → (depth : Nat) → (whole : Bool) → (nodes : List Node) → Reading →
    Except Fault (Node × Reading)
  | 0, _, _, _, _, _ => .error .tooDeep
  | fuel + 1, verbose, depth, whole, nodes, r =>
    match r.rest with
    | [] => .ok (Node.ofList nodes.reverse, r)
    | .dangling :: _ => r.fail .danglingBackslash 0
    | .escaped c :: _ => do
      let (escape, r) ← (← r.advance).escape c
      items fuel verbose depth whole (escape.node :: nodes) r
    | .plain c :: _ =>
      if c = '|' || c = ')' then .ok (Node.ofList nodes.reverse, r)
      else do
        let after ← r.advance
        if verbose && c.isAsciiSpace then items fuel verbose depth whole nodes after
        else if verbose && c = '#' then
          items fuel verbose depth whole nodes (← skipLine (after.rest.length + 1) after)
        else if c = '[' then
          let (test, r) ← after.set r.place
          items fuel verbose depth whole (.char test :: nodes) r
        else if c = '.' then items fuel verbose depth whole (.char .any :: nodes) after
        else if c = '^' then items fuel verbose depth whole (.anchor .lineStart :: nodes) after
        else if c = '$' then items fuel verbose depth whole (.anchor .lineEnd :: nodes) after
        else if c = '(' then
          let (node, verbose, r) ← group fuel verbose depth (whole && nodes.isEmpty) r.place after
          items fuel verbose depth whole (node.toList ++ nodes) r
        else if c = '*' || c = '+' || c = '?' || c = '\x7b' then
          let (counts, s) ← after.counts c
          match counts with
          | none => items fuel verbose depth whole (.char (.point false c) :: nodes) after
          | some (min, max) =>
            let (nodes, s) ← s.repeatLast r.place min max nodes
            items fuel verbose depth whole nodes s
        else items fuel verbose depth whole (.char (.point false c) :: nodes) after

/-- What a parenthesis at the place `place` stands for, and whether white space is skipped behind it; the
parenthesis has been taken. `early` holds where switches for the whole pattern may stand. -/
def group : (fuel : Nat) → (verbose : Bool) → (depth : Nat) → (early : Bool) → (place : Nat) → Reading →
    Except Fault (Option Node × Bool × Reading)
  | 0, _, _, _, _, _ => .error .tooDeep
  | fuel + 1, verbose, depth, early, place, r => do
    let (opening, r) ← r.opening place
    if maxDepth ≤ depth then .error .tooDeep
    else match opening with
      | .comment => return (none, verbose, r)
      | .backref index => return (some (.backref index), verbose, r)
      | .global =>
        if early then return (none, r.mode.verbose, r) else r.fail .lateSwitches (r.place - place)
      | .capture name =>
        let (index, r) ← r.openGroup name
        let (body, r) ← choice fuel verbose (depth + 1) false r
        let r ← r.closing place
        return (some (.group index body), verbose, r.closeGroup index body)
      | .scoped change =>
        let (body, r) ← choice fuel ((verbose || change.on.verbose) && !change.off.verbose) (depth + 1) false r
        return (some (.scoped change body), verbose, ← r.closing place)
      | .atomic =>
        let (body, r) ← choice fuel verbose (depth + 1) false r
        return (some (.atomic body), verbose, ← r.closing place)
      | .look false negated =>
        let (body, r) ← choice fuel verbose (depth + 1) false r
        return (some (.lookahead negated body), verbose, ← r.closing place)
      | .look true negated =>
        let outer := r.behind
        let (body, r) ← choice fuel verbose (depth + 1) false { r with behind := outer.or (some r.nextGroup) }
        let r ← { r with behind := outer }.closing place
        return (some (.lookbehind negated (body.width r.widths).fixed? body), verbose, r)
      | .conditional index =>
        let (yes, r) ← items fuel verbose (depth + 1) false [] r
        let (both, r) ← r.accept '|'
        let (no, r) ← if both then items fuel verbose (depth + 1) false [] r else pure (.empty, r)
        if both && r.isNext '|' then r.fail .threeBranches 0
        else return (some (.conditional index yes no), verbose, ← r.closing place)

end

end Reading

/-- The first fault that shows only in a tree that has been read: a look-behind without a fixed length, or a
repetition where the switches refuse them. -/
def Node.fault? (template : Bool) : Node → Option Fault
  | .empty | .char _ | .anchor _ | .backref _ => none
  | .seq a b | .either a b | .conditional _ a b => (a.fault? template).or (b.fault? template)
  | .group _ body | .scoped _ body | .atomic body | .lookahead _ body => body.fault? template
  | .repeated greed _ _ body =>
    if template then
      some (.repetitionRefused (match greed with
        | .greedy => "MAX_REPEAT"
        | .lazy => "MIN_REPEAT"
        | .possessive => "POSSESSIVE_REPEAT"))
    else body.fault? template
  | .lookbehind _ width body =>
    if width.isNone then some .variableLookbehind else body.fault? template

/-- A pattern that has been read. -/
structure Parsed where
  /-- Its tree. -/
  node : Node
  /-- The number of its groups. -/
  groups : Nat
  /-- Its mode. -/
  mode : Mode
  deriving DecidableEq, Repr

/-- Reads a pattern under a mode. -/
def parse (pattern : Text) (mode : Mode) : Except Fault Parsed := do
  let r ← Reading.start pattern mode
  let (node, r) ← Reading.choice (3 * pattern.length + 3) mode.verbose 0 true r
  if r.mode.ascii && r.mode.unicode then .error .repertoiresClash
  else if !r.rest.isEmpty then r.fail .unbalanced 0
  else match r.conditions.find? fun (index, _) => r.nextGroup ≤ index with
    | some (index, place) => .error (.malformed (.invalidGroup index) place)
    | none =>
      match node.fault? r.mode.template with
      | some fault => .error fault
      | none => .ok { node, groups := r.widths.length, mode := r.mode }

end FileSieve.Regex
