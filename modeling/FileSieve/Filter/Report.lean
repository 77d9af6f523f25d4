import FileSieve.Filter.Basic
import FileSieve.Log.Board

/-!
# Filters and their log

What a filter does is reported by a logger of its own to those who want to follow every step. An entry that cannot be
logged ends what it reports: behind it stand the pairs of the contexts that are open, and not every value can be shown.
-/

namespace FileSieve.Setting

/-- What becomes of a setting of a filter while it is reported. An entry that cannot be logged leaves the filter as it
was if it comes before the change. -/
def reported (s : Setting) (f : Sieve) (b : Log.Board) : Log.Board × Setting :=
  match b.report Log.rulesLogger .debug s.before with
  | (b, some m) => (b, f.unchanged (.misuse m) s.before)
  | (b, none) =>
    match s.failure with
    | some _ => (b, s)
    | none =>
      match b.report Log.rulesLogger .debug s.after with
      | (b, some m) => (b, { s with failure := some (.misuse m) })
      | (b, none) => (b, s)

end FileSieve.Setting
