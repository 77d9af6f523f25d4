import FileSieve.Config.Environment
import FileSieve.Config.File
import FileSieve.Filter.Report
import FileSieve.Filter.Section

/-!
# Managers of configurations

A manager has the layers of a configuration. A session holds the managers that a program has made, of which one may be
shared by all of its parts, together with its loggers and files. What a manager does is reported by the loggers.

How documents are loaded and where the process runs are given from outside.
-/

namespace FileSieve.Config

/-- A session. -/
structure Session where
  /-- The loader of documents. -/
  loader : Document.Loader
  /-- The rules of the local clocks. -/
  rules : Zone.Rules := .utc
  /-- The loggers and the files. -/
  board : Log.Board
  /-- The layers of the managers, by their numbers. -/
  managers : List Layers := []
  /-- The number of the shared manager. -/
  shared : Option Nat := none

/-- The loggers that every program has, with the files that it finds. -/
def startBoard (storage : Storage) (stamp : Text) : Log.Board :=
  let board : Log.Board := { storage, stamp }
  [Log.configLogger, Log.rulesLogger].foldl (fun b name => ((b.registered name).toOption.map Prod.snd).getD b) board

namespace Layers

/-- The layers with a valid configuration as one of them, in which dictionaries may be shared. -/
def loadValue (l : Layers) (config : Value) (source : Source) (shared : List (List Position) := []) :
    Except Failure Layers :=
  (l.load config source shared).mapError Failure.ofRefusal

/-- The layers with the configuration in a file as one of them, and the absolute form of its path. -/
def loadFrom (l : Layers) (loader : Document.Loader) (storage : Storage) (file : Value) (source : Source) :
    Except Failure (Text × Layers) := do
  let (path, meaning) ← readFile loader storage file
  return (path, ← l.loadValue meaning.value source meaning.shared)

/-- The layers after an attempt to load something, which are as they were if it failed, and what went wrong. -/
def attempt (l : Layers) : Except Failure Layers → Layers × Option Failure
  | .ok loaded => (loaded, none)
  | .error e => (l, some e)

/-- Loads a configuration into a layer. -/
def loadDict (l : Layers) (config : Value) (source : Source := .runtime) (shared : List (List Position) := []) :
    Layers × Option Failure :=
  l.attempt (l.loadValue config source shared)

/-- Loads what is given into a layer. It is copied. -/
def loadGiven (l : Layers) (given : Given) (source : Source := .runtime) : Layers × Option Failure :=
  l.loadDict (l.value given) source (l.sharedWithin given)

/-- The layers with what the variables of the environment set, unless they set nothing. -/
def loadSettings (l : Layers) (settings : List (Text × Text)) : Except Failure Layers := do
  match ← (Environment.entries (Environment.ofList settings)).mapError Failure.misuse with
  | [] => return l
  | entries => l.loadValue (.dict [(.text Key.root, .dict entries)]) .environment

/-- What setting up the filter that the configuration describes comes to, by the local clocks at an instant. -/
def setting (l : Layers) (rules : Zone.Rules) (now : Int) : Setting :=
  Sieve.ofSection { zone := .local rules, now } l.filterConfig

/-- The filter that has been set up, if it has. -/
def sieveOf (setting : Setting) : Except Failure Sieve :=
  match setting.failure with
  | none => .ok setting.filter
  | some f => .error (.ofFilter f)

/-- The level and the file that the configuration gives to the loggers. -/
def logging (l : Layers) : Except Misuse (Value × Value) :=
  match l.loggingConfig with
  | .dict entries =>
    let level := field entries Key.level
    .ok (if level.truth then level else .text Log.Level.info.name, field entries Key.file)
  | value => .error (.noMember value.kind "get")

end Layers

namespace Session

/-- The layers of a manager. -/
def manager (s : Session) (number : Nat) : Layers :=
  s.managers.getD number {}

/-- The session with other layers of a manager. -/
def setManager (s : Session) (number : Nat) (l : Layers) : Session :=
  { s with managers := s.managers.set number l }

/-- Reports a file that has been loaded. -/
def reportFile (s : Session) (path : Text) (source : Source) : Session × Option Failure :=
  let entry : Log.Entry := ⟨"Loaded config file", [("path", path), ("source", source.name)]⟩
  let (board, misuse) := s.board.report Log.configLogger .debug [entry]
  ({ s with board }, misuse.map .misuse)

/-- Loads a file into a layer of a manager. It is loaded even if it cannot be reported. -/
def loadFrom (s : Session) (number : Nat) (file : Value) (source : Source := .userConfig) : Session × Option Failure :=
  match (s.manager number).loadFrom s.loader s.board.storage file source with
  | .error e => (s, some e)
  | .ok (path, l) => (s.setManager number l).reportFile path source

/-- The layers of a new manager with a file in them, unless that is no value or empty. -/
def begin (s : Session) (file : Value) : Session × Except Failure Layers :=
  if !file.truth then (s, .ok {})
  else match Layers.loadFrom {} s.loader s.board.storage file .userConfig with
    | .error e => (s, .error e)
    | .ok (path, l) =>
      match s.reportFile path .userConfig with
      | (s, some e) => (s, .error e)
      | (s, none) => (s, .ok l)

/-- Makes a manager, with a file unless that is no value or empty, and with variables of the environment. -/
def create (s : Session) (file : Value) (settings : List (Text × Text)) : Session × Except Failure Nat :=
  match s.begin file with
  | (s, .error e) => (s, .error e)
  | (s, .ok l) =>
    match l.loadSettings settings with
    | .error e => (s, .error e)
    | .ok l => ({ s with managers := s.managers ++ [l] }, .ok s.managers.length)

/-- The shared manager; a new one with a file if there is none. -/
def sharedManager (s : Session) (file : Value) : Session × Except Failure Nat :=
  match s.shared with
  | some number => (s, .ok number)
  | none =>
    match s.create file [] with
    | (s, .error e) => (s, .error e)
    | (s, .ok number) => ({ s with shared := some number }, .ok number)

/-- The session in which a manager is shared, or none. -/
def share (s : Session) (number : Option Nat) : Session :=
  { s with shared := number }

/-- The filter of a manager at an instant. -/
def sieve (s : Session) (number : Nat) (now : Int) : Session × Except Failure Sieve :=
  let clock : Clock := { zone := .local s.rules, now }
  let (board, setting) := ((s.manager number).setting s.rules now).reported { clock } s.board
  ({ s with board }, Layers.sieveOf setting)

/-- Gives the loggers what the configuration of a manager says. -/
def setUpLogging (s : Session) (number : Nat) : Session × Option Failure :=
  match (s.manager number).logging with
  | .error m => (s, some (.misuse m))
  | .ok (level, file) =>
    let (board, fault) := s.board.configure level file
    ({ s with board }, fault.map fun f => match f with
      | .misuse m => .misuse m
      | .storage f => .logging f)

end Session

end FileSieve.Config
