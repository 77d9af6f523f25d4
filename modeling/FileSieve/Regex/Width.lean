import FileSieve.Regex.Syntax

/-!
# How long the texts of a node are

The least and the greatest length of a text that a node matches. A look-behind needs a node of which the
two are equal. Lengths are counted up to `maxCount`.
-/

namespace FileSieve.Regex

/-- The first number that is too large for a count of repetitions, and the greatest length. -/
def maxCount : Nat := 4294967295

/-- A least and a greatest length. -/
structure Width where
  /-- The least length. -/
  least : Nat
  /-- The greatest length. -/
  greatest : Nat
  deriving DecidableEq, Repr, Inhabited

namespace Width

/-- The lengths within what is counted. -/
def capped (least greatest : Nat) : Width :=
  ⟨min least (maxCount - 1), min greatest maxCount⟩

/-- One after the other. -/
def add (a b : Width) : Width :=
  capped (a.least + b.least) (a.greatest + b.greatest)

/-- One or the other. -/
def either (a b : Width) : Width :=
  ⟨min a.least b.least, max a.greatest b.greatest⟩

/-- From `low` to `high` times. -/
def times (a : Width) (low : Nat) (high : Option Nat) : Width :=
  capped (a.least * low) (a.greatest * high.getD maxCount)

/-- The length, if it is fixed. -/
def fixed? (a : Width) : Option Nat :=
  if a.least = a.greatest then some a.least else none

end Width

/-- The lengths of the texts of a node, given those of the groups that are closed. -/
def Node.width (groups : List (Option Width)) : Node → Width
  | .empty | .anchor _ | .lookahead _ _ | .lookbehind _ _ _ => ⟨0, 0⟩
  | .char _ => ⟨1, 1⟩
  | .seq a b => (a.width groups).add (b.width groups)
  | .either a b => (a.width groups).either (b.width groups)
  | .group _ body | .scoped _ body | .atomic body => body.width groups
  | .repeated _ low high body => (body.width groups).times low high
  | .backref index => ((groups[index - 1]?).join).getD ⟨0, 0⟩
  | .conditional _ yes no => (yes.width groups).either (no.width groups)

end FileSieve.Regex
