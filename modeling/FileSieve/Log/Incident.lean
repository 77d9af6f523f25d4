import FileSieve.Value.Shown

/-!
# Incidents

An incident has a kind and what it is about: any values. In a log it is told by its kind and the text of those
values. What the operating system reports has a number, by which its kind is known more closely.
-/

namespace FileSieve.Log

/-- An incident. -/
structure Incident where
  /-- The kind. -/
  kind : Text
  /-- What it is about. -/
  about : List Value
  deriving Repr

namespace Incident

/-- The kind of a missing key, which is shown with its kind of value in view. -/
def missingKey : Text := "KeyError"

/-- The kind of what the operating system reports: a number and a text. -/
def system : Text := "OSError"

/-- The kinds of what the operating system reports, by numbers. -/
def systemKinds : List (Int × Text) :=
  [(1, "PermissionError"), (2, "FileNotFoundError"), (3, "ProcessLookupError"), (4, "InterruptedError"),
    (10, "ChildProcessError"), (11, "BlockingIOError"), (13, "PermissionError"), (17, "FileExistsError"),
    (20, "NotADirectoryError"), (21, "IsADirectoryError"), (32, "BrokenPipeError"), (103, "ConnectionAbortedError"),
    (104, "ConnectionResetError"), (108, "BrokenPipeError"), (110, "TimeoutError"), (111, "ConnectionRefusedError"),
    (114, "BlockingIOError"), (115, "BlockingIOError")]

/-- The kind of an incident as it is told. -/
def name (i : Incident) : Text :=
  match i.about with
  | .int n :: _ :: _ => if i.kind = system then (systemKinds.lookup n).getD i.kind else i.kind
  | _ => i.kind

/-- Whether the operating system reports incidents of a kind. -/
def isSystem (kind : Text) : Bool :=
  (system :: "ConnectionError" :: systemKinds.map Prod.snd).contains kind

/-- The text of what the operating system reports: a number, a reason, and perhaps a file or two. -/
def systemText (number reason : Value) (files : List Value) : Except Misuse Text := do
  let text := "[Errno " ++ (← number.plain) ++ "] " ++ (← reason.plain)
  match files with
  | [] | .none :: _ => return text
  | [file, _, target] => return text ++ ": " ++ (← file.shown) ++ " -> " ++ (← target.shown)
  | file :: _ => return text ++ ": " ++ (← file.shown)

/-- The text of what an incident is about. -/
def text (i : Incident) : Except Misuse Text :=
  match i.about with
  | [] => .ok []
  | [value] => if i.kind = missingKey then value.shown else value.plain
  | number :: reason :: files =>
    if isSystem i.kind && files.length ≤ 3 then systemText number reason files
    else (Value.tuple i.about).shown

/-- The line that tells an incident. -/
def line (i : Incident) : Except Misuse Text := do
  let text ← i.text
  return if text.isEmpty then i.name else i.name ++ (": " : Text) ++ text

end Incident

end FileSieve.Log
