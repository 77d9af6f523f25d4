import FileSieve.Filter.Failure
import FileSieve.Storage.Basic

/-!
# What can go wrong with a configuration

A file that cannot be read or is no valid configuration, and a section that makes no filter.
-/

namespace FileSieve.Config

/-- Why there is no configuration, or nothing can be made of it. -/
inductive Failure
  /-- There is no such file. -/
  | notFound (file : Text)
  /-- A file cannot be opened. -/
  | unopened (file : Text) (fault : Storage.Fault)
  /-- A file holds no document. -/
  | malformed (file : Text)
  /-- The document in a file is no dictionary. -/
  | notDict (file : Text)
  /-- A configuration is not valid. -/
  | invalid (reason : Invalid)
  /-- The section of the filter is not valid. -/
  | invalidFilter (reason : Invalid)
  /-- The filter cannot be set up. -/
  | filter (f : FileSieve.Failure)
  /-- A logger cannot be set up. -/
  | logging (f : Storage.Fault)
  /-- A value cannot be worked with. -/
  | misuse (m : Misuse)
  deriving DecidableEq, Repr

namespace Failure

/-- The wording of a failure of the configuration itself. What is wrong within a document is not told. -/
def message? : Failure → Option Text
  | .notFound file => some ("Config file not found: " ++ file)
  | .unopened file fault => some ("Error loading config " ++ file ++ ": " ++ fault.message)
  | .malformed file => some ("YAML parse error in " ++ file ++ ": ")
  | .notDict file => some ("Invalid config format in " ++ file)
  | .invalid reason => some ("Invalid configuration: " ++ reason.message)
  | .invalidFilter reason => some ("Invalid filter configuration: " ++ reason.message)
  | .filter _ | .logging _ | .misuse _ => none

/-- The code of a failure, if it has one. -/
def code : Failure → Option Code
  | .notFound _ => some .notFound
  | .unopened _ _ => some .internalError
  | .malformed _ | .notDict _ | .invalid _ | .invalidFilter _ => some .invalidInput
  | .filter f => f.code
  | .logging _ | .misuse _ => none

/-- The failure of a validation. -/
def ofRefusal : Refusal → Failure
  | .invalid reason => .invalid reason
  | .misuse m => .misuse m

/-- The failure of setting up the filter of the configuration. -/
def ofFilter : FileSieve.Failure → Failure
  | .invalid reason => .invalidFilter reason
  | .misuse m => .misuse m
  | f => .filter f

end Failure

end FileSieve.Config
