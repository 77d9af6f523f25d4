import FileSieve.Config.Key
import FileSieve.Log.Level
import FileSieve.Pattern.Flags
import FileSieve.Predicate.Operator
import FileSieve.Text.Blank
import FileSieve.Text.Case
import FileSieve.Value.Sequence

/-!
# Valid configurations

Which values a configuration may have, and the first reason why one may not. Only the form is looked at: whether
a glob, a regular expression or a predicate can be read shows when it is.
-/

namespace FileSieve.Config

/-- The greatest length of a glob. -/
def maxGlobLength : Nat := 4096

/-- The greatest length of the separators. -/
def maxSeparators : Nat := 16

/-- The letters of modifiers. -/
def knownLetters : Text :=
  Modifier.all.map Modifier.letter

/-- The names of the levels of a log. -/
def levelNames : List Text :=
  Log.Level.all.map Log.Level.name

/-- Why a value is not valid. -/
inductive Invalid
  /-- The configuration is no dictionary. -/
  | notDict
  /-- The section that holds everything is no dictionary. -/
  | rootNotDict
  /-- The filter's section is no dictionary. -/
  | filterNotDict
  /-- The log's section is no dictionary. -/
  | loggingNotDict
  /-- There are keys that the filter does not know. -/
  | unknownKeys (names : List Text)
  /-- The separators are no text. -/
  | separatorKind (kind : Kind)
  /-- The separators are too long. -/
  | separatorLength
  /-- Case folding is no truth value. -/
  | caseFold (shown : Text)
  /-- A glob is no text. -/
  | globKind (kind : Kind)
  /-- A glob is empty. -/
  | globEmpty
  /-- A glob is too long. -/
  | globLength
  /-- A glob has a NUL in it. -/
  | globNul
  /-- The globs are no list. -/
  | globsKind (kind : Kind)
  /-- A list of globs under a key is not valid. -/
  | globs (key : Text) (reason : Invalid)
  /-- The regular expression of names is no text or empty. -/
  | nameRegex (shown : Text)
  /-- The modifiers are neither text nor list. -/
  | modifiersKind (kind : Kind)
  /-- There are letters that are no modifiers. -/
  | unknownModifiers (letters : List CodePoint)
  /-- A predicate is of the wrong kind; `fractions` says whether any number would do. -/
  | predicateKind (name : Text) (fractions : Bool) (kind : Kind)
  /-- A predicate is empty. -/
  | predicateEmpty (name : Text)
  /-- There is no such level. -/
  | level (shown : Text)
  deriving DecidableEq, Repr

/-- The class of a kind, as messages name it. -/
def className (kind : Kind) : Text :=
  "<class '" ++ kind.fullName ++ "'>"

/-- The wording of a reason. -/
def Invalid.message : Invalid → Text
  | .notDict => "Configuration must be a dictionary"
  | .rootNotDict => "'" ++ Key.root ++ "' section must be a dictionary"
  | .filterNotDict => "Filter configuration must be a dictionary"
  | .loggingNotDict => "Logging configuration must be a dictionary"
  | .unknownKeys names => "Unknown filter configuration fields: " ++ Text.join ", " names
  | .separatorKind kind => "Separator must be string, got " ++ className kind
  | .separatorLength => "Separator exceeds maximum length (" ++ Text.ofNat maxSeparators ++ ")"
  | .caseFold shown => "case_fold must be boolean: " ++ shown
  | .globKind kind => "Glob pattern must be string, got " ++ className kind
  | .globEmpty => "Glob pattern cannot be empty"
  | .globLength => "Glob pattern exceeds maximum length (" ++ Text.ofNat maxGlobLength ++ ")"
  | .globNul => "Invalid glob pattern: contains null bytes"
  | .globsKind kind => "Glob list must be a list, got " ++ kind.name
  | .globs key reason => "Invalid " ++ key ++ ": " ++ reason.message
  | .nameRegex shown => "name_regex must be a non-empty string: " ++ shown
  | .modifiersKind kind => "Modifiers must be string or list, got " ++ className kind
  | .unknownModifiers letters =>
    "Invalid pattern modifiers: " ++ Text.join ", " (letters.map fun c => [c]) ++ ". Must be any of '"
      ++ knownLetters ++ "'"
  | .predicateKind name fractions kind =>
    name ++ (" must be string or " : Text) ++ (if fractions then "number" else "integer" : Text) ++ (", got " : Text)
      ++ kind.name
  | .predicateEmpty name => name ++ (" cannot be empty" : Text)
  | .level shown =>
    "Invalid log level: " ++ shown ++ ". Must be one of [" ++ Text.join ", " (levelNames.map Text.quoted) ++ "]"

/-- Why a value is refused. -/
inductive Refusal
  /-- It is not valid. -/
  | invalid (reason : Invalid)
  /-- It cannot even be looked at. -/
  | misuse (m : Misuse)
  deriving DecidableEq, Repr

/-- The outcome of a validation. -/
abbrev Verdict := Except Refusal Unit

/-- Refuses a value that is not valid. -/
def refuse {α : Type} (reason : Invalid) : Except Refusal α :=
  .error (.invalid reason)

/-- The outcome of looking at a value. -/
def look {α : Type} (r : Except Misuse α) : Except Refusal α :=
  r.mapError .misuse

/-! ### Globs -/

/-- The items of a text with commas between them, without white space around them and without empty ones. -/
def globItems (t : Text) : List Text :=
  ((Text.splitAtPoint ',' t).map Text.strip).filter fun item => !item.isEmpty

/-- A valid glob is a text that is neither empty nor too long and has no NUL. -/
def checkGlob : Value → Verdict
  | .text t =>
    if t.isEmpty then refuse .globEmpty
    else if maxGlobLength < t.length then refuse .globLength
    else if t.any fun c => c.val = 0 then refuse .globNul
    else .ok ()
  | value => refuse (.globKind value.kind)

/-- Valid globs are a list of them, or a text with commas between them. -/
def checkGlobs : Value → Verdict
  | .text t => (globItems t).forM fun glob => checkGlob (.text glob)
  | .list globs => globs.forM checkGlob
  | value => refuse (.globsKind value.kind)

/-- Valid separators are a text that is not too long. -/
def checkSeparator : Value → Verdict
  | .text t => if maxSeparators < t.length then refuse .separatorLength else .ok ()
  | value => refuse (.separatorKind value.kind)

/-! ### Modifiers and predicates -/

/-- The code points of a text in their order, each once. -/
def sortedOnce (t : Text) : List CodePoint :=
  (t.eraseDups).mergeSort

/-- The letters that a value spells: a text, or a list of texts. -/
def lettersOf : Value → Except Refusal Text
  | .text t => .ok t
  | .list items => do return (← look (Value.textItems 0 items)).flatten
  | value => refuse (.modifiersKind value.kind)

/-- Valid modifiers are letters of modifiers. -/
def checkModifiers (value : Value) : Verdict := do
  let letters ← lettersOf value
  match sortedOnce (letters.filter fun c => !knownLetters.contains c) with
  | [] => .ok ()
  | unknown => refuse (.unknownModifiers unknown)

/-- A valid predicate is a text that is not blank, or an integer; one of times may be any number. -/
def checkPredicate (name : Text) (value : Value) : Verdict :=
  let fractions := name = Key.mtime
  match value with
  | .int _ => .ok ()
  | .float _ => if fractions then .ok () else refuse (.predicateKind name fractions value.kind)
  | .text t => if t.strip.isEmpty then refuse (.predicateEmpty name) else .ok ()
  | value => refuse (.predicateKind name fractions value.kind)

/-! ### Sections -/

/-- Puts a value into its place in a sorted list, by halving; `low` and `high` bound the place. -/
def placeOf (sorted : List Value) (value : Value) : (fuel low high : Nat) → Except Misuse Nat
  | 0, low, _ => .ok low
  | fuel + 1, low, high =>
    if high ≤ low then .ok low
    else do
      let middle := low + (high - low) / 2
      if ← value.relate .lt (sorted.getD middle .none) then placeOf sorted value fuel low middle
      else placeOf sorted value fuel (middle + 1) high

/-- Sorts what is left into a sorted list, one value after the other. -/
def sortInto (sorted : List Value) : List Value → Except Misuse (List Value)
  | [] => .ok sorted
  | value :: rest => do
    let place ← placeOf sorted value (sorted.length + 1) 0 sorted.length
    sortInto (sorted.insertIdx place value) rest

/-- Takes values as long as each is less than the one before, or none is; `run` holds those that have been
taken, in reverse order. -/
def takeRun (descending : Bool) (last : Value) (run : List Value) : List Value → Except Misuse (List Value × List Value)
  | [] => .ok (run, [])
  | value :: rest => do
    if (← value.relate .lt last) = descending then takeRun descending value (value :: run) rest
    else return (run, value :: rest)

/-- The values in their order. A run of values at the front that is in order, or in the reverse order, is taken
as it is; the others are put in one by one. Values without an order are found in that course. -/
def sorted : List Value → Except Misuse (List Value)
  | [] => .ok []
  | [value] => .ok [value]
  | first :: second :: rest => do
    let descending ← second.relate .lt first
    let (run, rest) ← takeRun descending second [second, first] rest
    sortInto (if descending then run else run.reverse) rest

/-- The value of a key, and none where it is missing. -/
def field (entries : Entries) (key : Text) : Value :=
  (entries.get? (.text key)).getD .none

/-- The keys that the filter's section does not have. -/
def unknownKeys (entries : Entries) : List Value :=
  (entries.map Prod.fst).filter fun key => !(Key.filterKeys.any fun known => key.equal (.text known))

/-- There are no keys that the filter's section does not have. -/
def checkKeys (entries : Entries) : Verdict :=
  match unknownKeys entries with
  | [] => .ok ()
  | keys => do
    let keys ← look (sorted keys)
    refuse (.unknownKeys (← look (Value.textItems 0 keys)))

/-- Case folding is a truth value, if it is there. -/
def checkCaseFold (entries : Entries) : Verdict :=
  match entries.get? (.text Key.caseFold) with
  | none | some (.bool _) => .ok ()
  | some value => do refuse (.caseFold (← look value.plain))

/-- The globs of a key are valid, if they are there. -/
def checkGlobsOf (entries : Entries) (key : Text) : Verdict :=
  match field entries key with
  | .none => .ok ()
  | globs =>
    match checkGlobs globs with
    | .error (.invalid reason) => refuse (.globs key reason)
    | verdict => verdict

/-- The regular expression of names is a text that is not empty, if it is there. -/
def checkNameRegex (entries : Entries) : Verdict :=
  match field entries Key.nameRegex with
  | .none | .text (_ :: _) => .ok ()
  | value => do refuse (.nameRegex (← look value.shown))

/-- The predicate of a key is valid, if it is there. -/
def checkPredicateOf (entries : Entries) (key : Text) : Verdict :=
  match field entries key with
  | .none => .ok ()
  | value => checkPredicate key value

/-- The entries of the filter's section are valid. -/
def checkFilterEntries (entries : Entries) : Verdict := do
  checkKeys entries
  match field entries Key.separator with
  | .none => pure ()
  | value => checkSeparator value
  checkCaseFold entries
  checkGlobsOf entries Key.whitelist
  checkGlobsOf entries Key.blacklist
  checkNameRegex entries
  let flags := field entries Key.nameRegexFlags
  if flags.truth then checkModifiers flags
  checkPredicateOf entries Key.size
  checkPredicateOf entries Key.mtime

/-- The filter's section is valid. -/
def checkFilter : Value → Verdict
  | .dict entries => checkFilterEntries entries
  | _ => refuse .filterNotDict

/-- The log's section is valid: its level is the name of one, in either case. -/
def checkLogging : Value → Verdict
  | .dict entries =>
    match field entries Key.level with
    | .none => .ok ()
    | value => do
      let shown ← look value.plain
      if levelNames.contains shown.upper then .ok () else refuse (.level shown)
  | _ => refuse .loggingNotDict

/-- The sections of a configuration: those in the section that holds everything, or else its own. -/
def sections (entries : Entries) : Value :=
  (entries.get? (.text Key.root)).getD (.dict entries)

/-- A section is valid, if it is there. -/
def checkSection (sections : Entries) (key : Text) (check : Value → Verdict) : Verdict :=
  match sections.get? (.text key) with
  | none => .ok ()
  | some value => check value

/-- A configuration is valid. -/
def check : Value → Verdict
  | .dict entries =>
    match sections entries with
    | .dict sections => do
      checkSection sections Key.filter checkFilter
      checkSection sections Key.logging checkLogging
    | _ => refuse .rootNotDict
  | _ => refuse .notDict

end FileSieve.Config
