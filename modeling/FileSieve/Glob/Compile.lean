import FileSieve.Glob.Regex
import FileSieve.Pattern.Basic

/-!
# Patterns of globs

The pattern of one glob matches the whole subject against it. The pattern of several matches what any of
them does, each between anchors of its own.
-/

namespace FileSieve.Glob

/-- The separators where none are given. -/
def defaultSeparators : Text := "/"

/-- The flags with letters matched in either case or not. -/
def flags (caseFold : Bool) : Flags :=
  if caseFold then .ofModifiers [.caseInsensitive] else .none

/-- A glob's regular expression between anchors. -/
def anchored (regex : Text) : Text :=
  "^" ++ regex ++ "$"

/-- Regular expressions of globs as alternatives, each between anchors. -/
def alternatives (regexes : List Text) : Text :=
  Text.join "|" (regexes.map fun regex => "(" ++ anchored regex ++ ")")

/-- The pattern of a glob. -/
def compile (glob : Text) (separators : Text := defaultSeparators) (caseFold : Bool := true) : Pattern where
  regex := anchored (toRegex glob separators)
  flags := flags caseFold

/-- The pattern of several globs. -/
def compileAll (globs : List Text) (separators : Text := defaultSeparators) (caseFold : Bool := true) : Pattern where
  regex := alternatives (globs.map fun glob => toRegex glob separators)
  flags := flags caseFold

end FileSieve.Glob
