import FileSieve.Code
import FileSieve.Config.Validation
import FileSieve.Log.Entry
import FileSieve.Pattern.Subject
import FileSieve.Predicate.Reading
import FileSieve.Size.Reading
import FileSieve.Time.Clock

/-!
# What can go wrong with a filter

Every failure of a filter has one of these causes. An impossible search is reported in the log as well.
-/

namespace FileSieve

/-- Why a filter cannot be set up or asked. -/
inductive Failure
  /-- A search is impossible. -/
  | pattern (e : Pattern.Error)
  /-- A predicate cannot be read. -/
  | predicate (e : Predicate.FormatError)
  /-- A size cannot be read. -/
  | size (f : Size.Fault)
  /-- An instant cannot be read. -/
  | time (f : Clock.Fault)
  /-- A configuration is not valid. -/
  | invalid (reason : Config.Invalid)
  /-- A value is of the wrong kind. -/
  | misuse (m : Misuse)
  deriving DecidableEq, Repr

/-- The failure of a search. -/
def Failure.ofSearch : SearchFailure → Failure
  | .pattern e => .pattern e
  | .misuse m => .misuse m

/-- The failure of a validation. -/
def Failure.ofRefusal : Config.Refusal → Failure
  | .invalid reason => .invalid reason
  | .misuse m => .misuse m

/-- The code of a failure; what a value is misused for has none. -/
def Failure.code : Failure → Option Code
  | .pattern _ => some .patternError
  | .predicate _ => some .invalidInput
  | .size (.misuse _) => none
  | .size (.outOfRange _ _) => some .outOfRange
  | .size _ => some .parseError
  | .time (.misuse _) => none
  | .time _ => some .parseError
  | .invalid _ => some .invalidInput
  | .misuse _ => none

/-- What the log reports of a failure. -/
def Failure.entries : Failure → List Log.Entry
  | .pattern e => [⟨"Pattern error", [("pattern", e.pattern.rendered), ("kind", e.kind.name)]⟩]
  | _ => []

end FileSieve
