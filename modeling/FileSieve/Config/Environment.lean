import FileSieve.Config.Layers

/-!
# The environment as a source

A variable of the environment whose name begins with `FILEFILTER_` sets a value. The rest of its name, in lower case,
is the path of keys, with two low lines between them. The value is a truth value, a number or a text.
-/

namespace FileSieve.Config.Environment

/-- What names of variables begin with. -/
def start : Text := "FILEFILTER_"

/-- What stands between the keys in a name. -/
def nesting : Text := "__"

/-- The value of a variable. -/
def value (t : Text) : Value :=
  let word := t.lower
  if (["true", "yes"] : List Text).contains word then .bool true
  else if (["false", "no"] : List Text).contains word then .bool false
  else match t.toInt, t.toBinary64? with
    | .ok n, _ => .int n
    | .error _, some x => .float x
    | .error _, none => .text t

/-- The path of keys in the name of a variable, if it has one. -/
def path? (name : Text) : Option (List Text) :=
  if name.startsWith start then some (Text.splitAtText nesting (Text.lower (name.drop start.length))) else none

/-- The entries with what a variable sets. -/
def entriesWith (entries : Entries) (setting : Text × Text) : Except Misuse Entries :=
  match path? setting.1 with
  | none => .ok entries
  | some path => entries.assign (value setting.2) path

/-- Variables of which those of one name count once, with the last value. -/
def ofList (settings : List (Text × Text)) : List (Text × Text) :=
  settings.foldl (fun seen (name, value) =>
    if (seen.lookup name).isSome then seen.map fun (n, v) => (n, if n = name then value else v)
    else seen ++ [(name, value)]) []

/-- What the variables set. -/
def entries (settings : List (Text × Text)) : Except Misuse Entries :=
  settings.foldlM entriesWith []

end FileSieve.Config.Environment
