import FileSieve.Filter.Basic

/-!
# Filters of a configuration

The filter's section of a configuration sets the criteria that it has: its keys are set one after the other, and
what is missing, no value or empty is left unset.
-/

namespace FileSieve.Sieve

/-- The flags of modifiers that are given as a text or a list of texts. -/
def flagsOf (modifiers : Value) : Except Misuse Flags := do
  if !modifiers.truth then return .none
  else
    let letters ← match modifiers with
      | .text t => pure [t]
      | value => do Value.textItems 0 (← value.items)
    return .ofLetters letters.flatten

/-- Sets a list of globs, unless it is empty. -/
def withGlobs (globs : Value) (set : Sieve → Value → Setting) (f : Sieve) : Setting :=
  match globsOf globs with
  | .error m => f.unchanged (.misuse m)
  | .ok [] => { filter := f }
  | .ok items => set f (.list items)

/-- Sets the regular expression of names with its modifiers, unless it is empty. -/
def withRegexOf (entries : Entries) (f : Sieve) : Setting :=
  let regex := Config.field entries Key.nameRegex
  if !regex.truth then { filter := f }
  else match flagsOf (Config.field entries Key.nameRegexFlags) with
    | .error m => f.unchanged (.misuse m)
    | .ok flags =>
      match Pattern.ofValue regex flags with
      | .error m => f.unchanged (.misuse m)
      | .ok pattern => f.withNamePattern pattern

/-- Sets a predicate, unless it is no value. -/
def withValue (value : Value) (set : Sieve → Value → Setting) (f : Sieve) : Setting :=
  if value.isNone then { filter := f } else set f value

/-- Sets the criteria of the entries of a section. -/
def withEntries (f : Sieve) (entries : Entries) : Setting :=
  let separator := Config.field entries Key.separator
  let caseFold := (entries.get? (.text Key.caseFold)).getD (.bool true)
  ((((withGlobs (Config.field entries Key.whitelist) (withWhitelist · · separator caseFold) f).andThen
    (withGlobs (Config.field entries Key.blacklist) (withBlacklist · · separator caseFold))).andThen
    (withRegexOf entries)).andThen
    (withValue (Config.field entries Key.size) withSizes)).andThen
    (withValue (Config.field entries Key.mtime) withTimes)

/-- The filter of a section, which must be valid as a dictionary and be one. -/
def ofSection (clock : Clock) (value : Value) : Setting :=
  let empty : Sieve := { clock }
  match value.asEntries with
  | .error m => empty.unchanged (.misuse m)
  | .ok entries =>
    match Config.checkFilterEntries entries with
    | .error e => empty.unchanged (Failure.ofRefusal e)
    | .ok () =>
      match value with
      | .dict entries => empty.withEntries entries
      | value => empty.unchanged (.misuse (.noMember value.kind "get"))

end FileSieve.Sieve
