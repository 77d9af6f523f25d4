import FileSieve.Filter.Failure
import FileSieve.Glob.Options
import FileSieve.Predicate.Clause

/-!
# File filters

A filter has criteria that are independent of each other: globs that a name must match, globs that it must not
match, a regular expression that it must match, and clauses for size and modification time. A file is accepted
when every criterion that is set holds.

Setting a criterion replaces it. The outcome is a `Setting`: the filter afterwards, what the log reports before and after
the change, and why it failed if it did.
-/

namespace FileSieve

/-- A file filter. -/
structure Sieve where
  /-- The clock by which times are read. -/
  clock : Clock := {}
  /-- What a name must match. -/
  whitelist : Option Pattern := none
  /-- What a name must not match. -/
  blacklist : Option Pattern := none
  /-- What a name must match as well. -/
  nameRegex : Option Pattern := none
  /-- What a size must satisfy. -/
  sizeClauses : List Clause := []
  /-- What a modification time must satisfy. -/
  timeClauses : List Clause := []

/-- The outcome of setting a criterion. -/
structure Setting where
  /-- The filter afterwards. -/
  filter : Sieve
  /-- What the log reports before the filter changes. -/
  before : List Log.Entry := []
  /-- What it reports when the filter has changed. -/
  after : List Log.Entry := []
  /-- Why it failed, if it did. -/
  failure : Option Failure := none

namespace Setting

/-- What the log reports. -/
def entries (s : Setting) : List Log.Entry :=
  s.before ++ s.after

/-- A setting and then another, unless the first fails. -/
def andThen (s : Setting) (next : Sieve → Setting) : Setting :=
  match s.failure with
  | some _ => s
  | none =>
    let t := next s.filter
    { t with before := s.entries ++ t.before }

end Setting

namespace Sieve

/-- A setting that fails before it changes anything. -/
def unchanged (f : Sieve) (failure : Failure) (before : List Log.Entry := []) : Setting :=
  { filter := f, before, failure := some failure }

/-! ### Names -/

/-- The globs that a value lists: none, the items of a text with commas, or those of a sequence. -/
def globsOf : Value → Except Misuse (List Value)
  | .none => .ok []
  | .text t => .ok ((Config.globItems t).map Value.text)
  | value => value.items

/-- The form of an optional pattern in messages. -/
def patternText : Option Pattern → Text
  | some p => p.rendered
  | none => "None"

/-- The pattern of a list of globs, none for an empty one, and what the log reports. -/
def patternOfGlobs (globs separators caseFold : Value) : Except Misuse (Option Pattern × List Log.Entry) := do
  let globs ← globsOf globs
  if globs.isEmpty then return (none, [])
  else
    let pattern ← (({} : Glob.Options).override separators caseFold).compileAll globs
    let shown := ((Value.list globs).plain).toOption.getD []
    return (some pattern, [⟨"Compiled globs", [("globs", shown), ("regex", pattern.regex)]⟩])

/-- Sets the globs of allowed names; an empty list removes them. -/
def withWhitelist (f : Sieve) (globs : Value) (separators caseFold : Value := .none) : Setting :=
  match patternOfGlobs globs separators caseFold with
  | .error m => f.unchanged (.misuse m)
  | .ok (pattern, before) =>
    { filter := { f with whitelist := pattern }
      before
      after := [⟨"Whitelist set", [("pattern", patternText pattern)]⟩] }

/-- Sets the globs of rejected names; an empty list removes them. -/
def withBlacklist (f : Sieve) (globs : Value) (separators caseFold : Value := .none) : Setting :=
  match patternOfGlobs globs separators caseFold with
  | .error m => f.unchanged (.misuse m)
  | .ok (pattern, before) =>
    { filter := { f with blacklist := pattern }
      before
      after := [⟨"Blacklist set", [("pattern", patternText pattern)]⟩] }

/-- Sets the pattern that names must match. -/
def withNamePattern (f : Sieve) (pattern : Pattern) : Setting :=
  { filter := { f with nameRegex := some pattern }
    after := [⟨"Name regex set", [("pattern", pattern.rendered)]⟩] }

/-- Sets the regular expression that names must match. -/
def withNames (f : Sieve) (regex : Value) : Setting :=
  match Pattern.ofValue regex with
  | .error m => f.unchanged (.misuse m)
  | .ok pattern => f.withNamePattern pattern

/-! ### Sizes and times -/

/-- What the log reports of a predicate that has been read. -/
def predicateEntry (predicate : Text) (clauses : Nat) : Log.Entry :=
  ⟨"Parsed predicate", [("predicate", predicate.strip), ("clauses", Text.ofNat clauses)]⟩

/-- What the log reports of a predicate that has been set. -/
def settingEntry (message : Text) (predicate : Value) (clauses : Text) : Log.Entry :=
  ⟨message, [("predicate", predicate.plain.toOption.getD []), ("clauses", clauses)]⟩

/-- A filter with new clauses, which are described for the log. The clauses are in place even if one cannot be
described. -/
def described (f : Sieve) (message : Text) (predicate : Value) (clauses : List Clause)
    (before : List Log.Entry) : Setting :=
  match Clause.textAll clauses with
  | .error m => { filter := f, before, failure := some (.misuse m) }
  | .ok text => { filter := f, before, after := [settingEntry message predicate text] }

/-- The clause of an operator with the text of a size. -/
def sizeClause (clause : Operator × Text) : Except Failure Clause :=
  match Size.parse clause.2 with
  | .ok n => .ok ⟨clause.1, .int n⟩
  | .error f => .error (.size f)

/-- The clause of an operator with the text of an instant. -/
def timeClause (clock : Clock) (clause : Operator × Text) : Except Failure Clause :=
  match clock.read clause.2 with
  | .ok d => .ok ⟨clause.1, .datetime d⟩
  | .error f => .error (.time f)

/-- Sets the clauses for sizes. -/
def withSizeClauses (f : Sieve) (predicate : Value) (clauses : List Clause) (before : List Log.Entry) : Setting :=
  { f with sizeClauses := clauses }.described "Size predicate set" predicate clauses before

/-- Sets the clauses for modification times. -/
def withTimeClauses (f : Sieve) (predicate : Value) (clauses : List Clause) (before : List Log.Entry) : Setting :=
  { f with timeClauses := clauses }.described "Time predicate set" predicate clauses before

/-- Sets the predicate of sizes: a text, or the one size in bytes. -/
def withSizes (f : Sieve) (predicate : Value) : Setting :=
  match predicate with
  | .int n => f.withSizeClauses predicate [⟨.eq, .int n⟩] []
  | .text t =>
    match Predicate.parse t with
    | .error e => f.unchanged (.predicate e)
    | .ok parts =>
      let before := [predicateEntry t parts.length]
      match parts.mapM sizeClause with
      | .error e => f.unchanged e before
      | .ok clauses => f.withSizeClauses predicate clauses before
  | value => f.unchanged (.misuse (.notSizePredicate value.kind))

/-- Sets the predicate of modification times: a text, or the one instant. -/
def withTimes (f : Sieve) (predicate : Value) : Setting :=
  match predicate with
  | .text t =>
    match Predicate.parse t with
    | .error e => f.unchanged (.predicate e)
    | .ok parts =>
      let before := [predicateEntry t parts.length]
      match parts.mapM (timeClause f.clock) with
      | .error e => f.unchanged e before
      | .ok clauses => f.withTimeClauses predicate clauses before
  | value =>
    match f.clock.coerce value with
    | .error e => f.unchanged (.time e)
    | .ok instant => f.withTimeClauses predicate [⟨.eq, instant⟩] []

/-! ### Queries -/

/-- Whether a pattern, if there is one, matches a name; without one the answer is `otherwise`. -/
def matchesName (pattern : Option Pattern) (name : Value) (otherwise : Bool) : Except Failure Bool :=
  match pattern with
  | none => .ok otherwise
  | some p => (p.matchesIn name).mapError Failure.ofSearch

/-- Whether a name satisfies the criteria for names; the first that does not hold decides. -/
def passesName (f : Sieve) (name : Value) : Except Failure Bool := do
  if !(← matchesName f.whitelist name true) then return false
  else if ← matchesName f.blacklist name false then return false
  else matchesName f.nameRegex name true

/-- Whether a size satisfies its clauses. -/
def passesSize (f : Sieve) (size : Value) : Except Failure Bool :=
  (Clause.allHold f.sizeClauses size).mapError .misuse

/-- Whether a modification time satisfies its clauses; without any it is not looked at. -/
def passesTime (f : Sieve) (mtime : Value) : Except Failure Bool :=
  if f.timeClauses.isEmpty then .ok true
  else match f.clock.coerce mtime with
    | .error e => .error (.time e)
    | .ok instant => (Clause.allHold f.timeClauses instant).mapError .misuse

/-- Whether a file is accepted by its name and, where they are given, its size and modification time. -/
def passes (f : Sieve) (name : Value) (size mtime : Value := .none) : Except Failure Bool := do
  if !(← f.passesName name) then return false
  else if !(← if size.isNone then pure true else f.passesSize size) then return false
  else if mtime.isNone then return true else f.passesTime mtime

/-! ### Views -/

/-- The form in which a filter is shown. -/
def shown (f : Sieve) : Except Misuse Text := do
  let size ← Clause.textAll f.sizeClauses
  let mtime ← Clause.textAll f.timeClauses
  return "FileFilter(whitelist=" ++ patternText f.whitelist ++ ", blacklist=" ++ patternText f.blacklist
    ++ ", name_regex=" ++ patternText f.nameRegex ++ ", size=[" ++ size ++ "], mtime=[" ++ mtime ++ "])"

end Sieve

end FileSieve
