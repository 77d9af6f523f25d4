import FileSieve.Regex.CharTest

/-!
# Matching

A node is run at a place of the text and hands each place where it can end, best first, to what follows it;
the first such place with which everything that follows matches is the answer. A place is a position between
code points together with the groups that have been entered and left on the way.

A repetition goes round at most once more than there is text left behind its least count, because beyond that
count a round that took no text is the last one.
-/

namespace FileSieve.Regex

/-- Where a group was last entered and last left. -/
structure Span where
  /-- Where it was entered. -/
  start : Option Nat := none
  /-- Where it was left. -/
  stop : Option Nat := none
  deriving DecidableEq, Repr, Inhabited

/-- The two ends, if the group was entered and left. -/
def Span.ends? (span : Span) : Option (Nat × Nat) :=
  match span.start, span.stop with
  | some a, some b => some (a, b)
  | _, _ => none

/-- A position in the text and what the groups hold there. -/
structure Place where
  /-- The number of code points before the position. -/
  pos : Nat
  /-- The groups, in the order of their numbers. -/
  groups : List Span
  deriving DecidableEq, Repr

namespace Place

/-- The text of a group as its two ends; none when it has not been left since it was last entered. -/
def group? (p : Place) (index : Nat) : Option (Nat × Nat) :=
  match (p.groups.getD (index - 1) {}).ends? with
  | some (a, b) => if a ≤ b then some (a, b) else none
  | none => none

/-- Enters a group. -/
def enter (p : Place) (index : Nat) : Place :=
  { p with groups := p.groups.modify (index - 1) fun span => { span with start := some p.pos } }

/-- Leaves a group. -/
def leave (p : Place) (index : Nat) : Place :=
  { p with groups := p.groups.modify (index - 1) fun span => { span with stop := some p.pos } }

/-- The place `count` code points further. -/
def forward (p : Place) (count : Nat) : Place :=
  { p with pos := p.pos + count }

end Place

/-- Whether a word goes on before the position `i + 1` or after the position `i`. -/
def wordAt (s : Array CodePoint) (m : Mode) (i : Nat) : Bool :=
  match s[i]? with
  | some c => Category.word.holds m c
  | none => false

/-- Whether a position is one between a character of a word and one that is not. -/
def isBoundary (s : Array CodePoint) (m : Mode) (pos : Nat) : Bool :=
  (0 < pos && wordAt s m (pos - 1)) != wordAt s m pos

/-- Whether a position satisfies a condition. The empty text has no boundary and no other place either. -/
def Anchor.holds (s : Array CodePoint) (m : Mode) (pos : Nat) : Anchor → Bool
  | .lineStart => pos == 0 || (m.multiline && s[pos - 1]? == some ('\n' : CodePoint))
  | .lineEnd =>
    pos == s.size || (s[pos]? == some ('\n' : CodePoint) && (m.multiline || pos + 1 == s.size))
  | .textStart => pos == 0
  | .textEnd => pos == s.size
  | .boundary => !s.isEmpty && isBoundary s m pos
  | .notBoundary => !s.isEmpty && !isBoundary s m pos

/-- What follows a node: the answer from a place on. -/
abbrev Follow := Place → Option Place

/-- A node as what it does in front of what follows. -/
abbrev Step := Follow → Follow

/-! ### Repetitions -/

/-- As many rounds as possible, fewer where what follows fails; `last` is where the round before began. -/
def greedily (step : Step) (k : Follow) : (fuel min : Nat) → (max : Option Nat) → (last : Option Nat) → Follow
  | 0, _, _, _, p => k p
  | fuel + 1, 0, max, last, p =>
    if max = some 0 || last = some p.pos then k p
    else match step (greedily step k fuel 0 (max.map (· - 1)) (some p.pos)) p with
      | some q => some q
      | none => k p
  | fuel + 1, min + 1, max, last, p => step (greedily step k fuel min (max.map (· - 1)) last) p

/-- As few rounds as possible, more where what follows fails. -/
def lazily (step : Step) (k : Follow) : (fuel min : Nat) → (max : Option Nat) → (last : Option Nat) → Follow
  | 0, _, _, _, p => k p
  | fuel + 1, 0, max, last, p =>
    match k p with
    | some q => some q
    | none =>
      if max = some 0 || last = some p.pos then none
      else step (lazily step k fuel 0 (max.map (· - 1)) (some p.pos)) p
  | fuel + 1, min + 1, max, last, p => step (lazily step k fuel min (max.map (· - 1)) last) p

/-- As many rounds as possible, each in its best way, and no others. -/
def possessively (step : Step) : (fuel min : Nat) → (max : Option Nat) → (last : Option Nat) → Follow
  | 0, _, _, _, p => some p
  | fuel + 1, 0, max, last, p =>
    if max = some 0 || last = some p.pos then some p
    else match step some p with
      | some q => possessively step fuel 0 (max.map (· - 1)) (some p.pos) q
      | none => some p
  | fuel + 1, min + 1, max, last, p =>
    match step some p with
    | some q => possessively step fuel min (max.map (· - 1)) last q
    | none => none

/-- How many of at most `count` code points from `pos` on pass a test one after the other. -/
def runLength (s : Array CodePoint) (m : Mode) (test : CharTest) : (count pos : Nat) → (sofar : Nat) → Nat
  | 0, _, sofar => sofar
  | count + 1, pos, sofar =>
    match s[pos]? with
    | some c => if test.holds m c then runLength s m test count (pos + 1) (sofar + 1) else sofar
    | none => sofar

/-- What follows at `least + extra` code points further, else at one less, down to `least`. -/
def tryDown (k : Follow) (p : Place) (least : Nat) : (extra : Nat) → Option Place
  | 0 => k (p.forward least)
  | extra + 1 =>
    match k (p.forward (least + (extra + 1))) with
    | some q => some q
    | none => tryDown k p least extra

/-- What follows at `least` code points further, else at one more, `extra` times. -/
def tryUp (k : Follow) (p : Place) : (least extra : Nat) → Option Place
  | least, 0 => k (p.forward least)
  | least, extra + 1 =>
    match k (p.forward least) with
    | some q => some q
    | none => tryUp k p (least + 1) extra

/-- A repetition of one code point that passes a test. -/
def runChars (s : Array CodePoint) (m : Mode) (greed : Greed) (min : Nat) (max : Option Nat) (test : CharTest) :
    Step := fun k p =>
  let left := s.size - p.pos
  let length := runLength s m test (match max with | some n => Nat.min n left | none => left) p.pos 0
  if length < min then none
  else match greed with
    | .greedy => tryDown k p min (length - min)
    | .lazy => tryUp k p min (length - min)
    | .possessive => k (p.forward length)

/-- A repetition of a step. -/
def runRepeated (s : Array CodePoint) (greed : Greed) (min : Nat) (max : Option Nat) (step : Step) : Step := fun k p =>
  let fuel := min + (s.size - p.pos) + 2
  match greed with
  | .greedy => greedily step k fuel min max none p
  | .lazy => lazily step k fuel min max none p
  | .possessive => (possessively step fuel min max none p).bind k

/-! ### Nodes -/

/-- Whether the text between two positions stands again at a third one, in the same letters or, under case
folding, in letters of the same lower-case form. -/
def standsAgain (s : Array CodePoint) (m : Mode) : (start pos count : Nat) → Bool
  | _, _, 0 => true
  | start, pos, count + 1 =>
    match s[start]?, s[pos]? with
    | some c, some d => m.fold c == m.fold d && standsAgain s m (start + 1) (pos + 1) count
    | _, _ => false

/-- The test of a node that is one code point. -/
def Node.single? : Node → Option CharTest
  | .char test => some test
  | _ => none

/-- Runs a node in front of what follows. -/
def Node.run (s : Array CodePoint) : Node → Mode → Step
  | .empty, _ => fun k p => k p
  | .char test, m => fun k p =>
    match s[p.pos]? with
    | some c => if test.holds m c then k (p.forward 1) else none
    | none => none
  | .seq a b, m => fun k p => a.run s m (b.run s m k) p
  | .either a b, m => fun k p =>
    match a.run s m k p with
    | some q => some q
    | none => b.run s m k p
  | .group index body, m => fun k p => body.run s m (fun q => k (q.leave index)) (p.enter index)
  | .scoped change body, m => body.run s (change.apply m)
  | .repeated greed min max body, m =>
    match body.single? with
    | some test => runChars s m greed min max test
    | none => runRepeated s greed min max (body.run s m)
  | .anchor kind, m => fun k p => if kind.holds s m p.pos then k p else none
  | .backref index, m => fun k p =>
    match p.group? index with
    | some (a, b) => if standsAgain s m a p.pos (b - a) then k (p.forward (b - a)) else none
    | none => none
  | .conditional index yes no, m => fun k p =>
    match p.group? index with
    | some _ => yes.run s m k p
    | none => no.run s m k p
  | .lookahead negated body, m => fun k p =>
    match body.run s m some p with
    | some q => if negated then none else k { q with pos := p.pos }
    | none => if negated then k p else none
  | .lookbehind negated width body, m => fun k p =>
    let back := width.getD 0
    match if back ≤ p.pos then body.run s m some { p with pos := p.pos - back } else none with
    | some q => if negated then none else k { q with pos := p.pos }
    | none => if negated then k p else none
  | .atomic body, m => fun k p =>
    match body.run s m some p with
    | some q => k q
    | none => none

end FileSieve.Regex
