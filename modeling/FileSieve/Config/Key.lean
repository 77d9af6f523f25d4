import FileSieve.Value.Equality

/-!
# Keys of a configuration

The sections of a configuration and the keys in them, with the values that hold where nothing is configured.
-/

namespace FileSieve.Key

/-- The section that holds everything. -/
def root : Text := "filefilter"
/-- The section of the filter. -/
def filter : Text := "filter"
/-- The section of the log. -/
def logging : Text := "logging"
/-- The separators of directories. -/
def separator : Text := "separator"
/-- Whether names match in either case. -/
def caseFold : Text := "case_fold"
/-- The globs of allowed names. -/
def whitelist : Text := "whitelist"
/-- The globs of rejected names. -/
def blacklist : Text := "blacklist"
/-- The regular expression of names. -/
def nameRegex : Text := "name_regex"
/-- The modifiers of the regular expression of names. -/
def nameRegexFlags : Text := "name_regex_flags"
/-- The predicate of sizes. -/
def size : Text := "size"
/-- The predicate of modification times. -/
def mtime : Text := "mtime"
/-- The level of the log. -/
def level : Text := "level"
/-- The file of the log. -/
def file : Text := "file"

/-- The keys of the filter's section. -/
def filterKeys : List Text :=
  [separator, caseFold, whitelist, blacklist, nameRegex, nameRegexFlags, size, mtime]

/-- The configuration where nothing is configured. -/
def defaults : Entries :=
  [(.text root, .dict [
    (.text filter, .dict [
      (.text separator, .text "/"),
      (.text caseFold, .bool true),
      (.text whitelist, .list []),
      (.text blacklist, .list []),
      (.text nameRegex, .none),
      (.text nameRegexFlags, .list []),
      (.text size, .none),
      (.text mtime, .none)]),
    (.text logging, .dict [
      (.text level, .text "INFO"),
      (.text file, .none)])])]

end FileSieve.Key
