import FileSieve.Text.Basic

/-!
# The syntax of regular expressions

The tree that a pattern is read into. A node says what it matches at a place of a text; modes such as
case folding are not resolved in the tree but handed down to it, and a scoped part changes them.
-/

namespace FileSieve.Regex

/-- The switches under which a pattern or a part of it is read and matched. -/
structure Mode where
  /-- Letters match in either case. -/
  ignoreCase : Bool := false
  /-- `^` and `$` also match at line ends. -/
  multiline : Bool := false
  /-- `.` also matches a newline. -/
  dotAll : Bool := false
  /-- White space and comments in the pattern are skipped. -/
  verbose : Bool := false
  /-- Classes and case folding are those of ASCII. -/
  ascii : Bool := false
  /-- Classes and case folding are those of Unicode. -/
  unicode : Bool := false
  /-- Repetitions are refused. -/
  template : Bool := false
  deriving DecidableEq, Repr, Inhabited

namespace Mode

/-- The switches of either mode. -/
def union (a b : Mode) : Mode where
  ignoreCase := a.ignoreCase || b.ignoreCase
  multiline := a.multiline || b.multiline
  dotAll := a.dotAll || b.dotAll
  verbose := a.verbose || b.verbose
  ascii := a.ascii || b.ascii
  unicode := a.unicode || b.unicode
  template := a.template || b.template

/-- The switches of `a` that `b` does not have. -/
def minus (a b : Mode) : Mode where
  ignoreCase := a.ignoreCase && !b.ignoreCase
  multiline := a.multiline && !b.multiline
  dotAll := a.dotAll && !b.dotAll
  verbose := a.verbose && !b.verbose
  ascii := a.ascii && !b.ascii
  unicode := a.unicode && !b.unicode
  template := a.template && !b.template

/-- Whether the modes share a switch. -/
def meets (a b : Mode) : Bool :=
  a.ignoreCase && b.ignoreCase || a.multiline && b.multiline || a.dotAll && b.dotAll || a.verbose && b.verbose
    || a.ascii && b.ascii || a.unicode && b.unicode || a.template && b.template

end Mode

/-- Switches that a part of a pattern turns on and off. -/
structure ModeChange where
  /-- The switches turned on. -/
  on : Mode := {}
  /-- The switches turned off. -/
  off : Mode := {}
  deriving DecidableEq, Repr, Inhabited

/-- The mode within the part: choosing a repertoire of characters replaces the one in force. -/
def ModeChange.apply (change : ModeChange) (m : Mode) : Mode :=
  let m := if change.on.ascii || change.on.unicode then { m with ascii := false, unicode := false } else m
  (m.union change.on).minus change.off

/-- A class of characters that has a letter of its own. -/
inductive Category
  /-- Decimal digits. -/
  | digit
  /-- White space. -/
  | space
  /-- Characters of words. -/
  | word
  deriving DecidableEq, Repr

/-- One entry between the brackets of a set. -/
inductive SetItem
  /-- A single code point. -/
  | point (c : CodePoint)
  /-- The code points from the first to the second. -/
  | range (lo hi : CodePoint)
  /-- A class, or what is not in it. -/
  | category (cat : Category) (negated : Bool)
  deriving DecidableEq, Repr

/-- What one code point of the text is asked for. -/
inductive CharTest
  /-- Any code point, a newline only under `dotAll`. -/
  | any
  /-- A given code point, or any other one. -/
  | point (negated : Bool) (c : CodePoint)
  /-- A code point that one of the items has, or that none has. -/
  | oneOf (negated : Bool) (items : List SetItem)
  deriving DecidableEq, Repr

/-- A condition on a place that takes no text. -/
inductive Anchor
  /-- The start of the text, under `multiline` of a line. -/
  | lineStart
  /-- The end of the text or of its last line, under `multiline` of a line. -/
  | lineEnd
  /-- The start of the text. -/
  | textStart
  /-- The end of the text. -/
  | textEnd
  /-- Between a character of a word and one that is not. -/
  | boundary
  /-- Not such a place. -/
  | notBoundary
  deriving DecidableEq, Repr

/-- In which order a repetition tries its counts, and whether it goes back on them. -/
inductive Greed
  /-- The largest count first. -/
  | greedy
  /-- The smallest count first. -/
  | lazy
  /-- The largest count only. -/
  | possessive
  deriving DecidableEq, Repr

/-- A regular expression. -/
inductive Node
  /-- The empty text. -/
  | empty
  /-- One code point. -/
  | char (test : CharTest)
  /-- One after the other. -/
  | seq (first second : Node)
  /-- The first or, where that fails, the second. -/
  | either (first second : Node)
  /-- A group whose text is kept under its number. -/
  | group (index : Nat) (body : Node)
  /-- A group that keeps no text and may change the mode. -/
  | scoped (change : ModeChange) (body : Node)
  /-- From `min` to `max` times. -/
  | repeated (greed : Greed) (min : Nat) (max : Option Nat) (body : Node)
  /-- A condition on the place. -/
  | anchor (kind : Anchor)
  /-- The text of a group again. -/
  | backref (index : Nat)
  /-- One of two, by whether a group has matched. -/
  | conditional (index : Nat) (yes no : Node)
  /-- A condition on the text that follows. -/
  | lookahead (negated : Bool) (body : Node)
  /-- A condition on the text before, of `width` code points; without a width no text has a fixed length. -/
  | lookbehind (negated : Bool) (width : Option Nat) (body : Node)
  /-- The first way that matches, without going back on it. -/
  | atomic (body : Node)
  deriving DecidableEq, Repr

/-- The nodes one after the other. -/
def Node.ofList : List Node → Node
  | [] => .empty
  | [n] => n
  | n :: rest => .seq n (ofList rest)

end FileSieve.Regex
