import FileSieve.Log.Entry
import FileSieve.Log.Incident
import FileSieve.Log.Level
import FileSieve.Storage.Basic

/-!
# Loggers

Loggers of one name write to one channel, which has a least level and handlers: the console, a stream, and files. A
message goes to all handlers of its channel if it is grave enough. Behind it stand the pairs of the contexts that are
open, from the outermost to the innermost, and then its own; of equal keys the last value counts, at the place of the
first.

A file may be rotated: before a line would take it to its limit, it is renamed to its first backup, that one to the
second, and so on, and a new file is begun.

The names of loggers have parts with points between them; a channel without a level has that of the next one around
it.
-/

namespace FileSieve.Log

/-- Pairs of a key and a value. -/
abbrev Pairs := List (Text × Value)

namespace Pairs

/-- The pairs with a value for a key, which keeps its place if it is there. -/
def insert (key : Text) (value : Value) : Pairs → Pairs
  | [] => [(key, value)]
  | (k, v) :: rest => if k = key then (k, value) :: rest else (k, v) :: insert key value rest

/-- The pairs with those of `more`. -/
def update (pairs more : Pairs) : Pairs :=
  more.foldl (fun pairs (key, value) => insert key value pairs) pairs

/-- The pairs in their plain forms. -/
def context (pairs : Pairs) : Except Misuse Context :=
  pairs.mapM fun (key, value) => value.plain.map fun shown => (key, shown)

/-- The pairs of open contexts, the outermost first. -/
def merged (contexts : List Pairs) : Pairs :=
  contexts.foldl update []

end Pairs

/-! ### Channels -/

/-- A file that lines are written to. -/
structure LogFile where
  /-- The name. -/
  parts : List Text
  /-- The number of the file that is open. -/
  number : Nat
  /-- The number of octets at which it is rotated; zero for never. -/
  limit : Int
  /-- How many backups are kept. -/
  backups : Int
  deriving DecidableEq, Repr

/-- Where lines go. -/
inductive Handler
  /-- To the console. -/
  | console
  /-- To a stream. -/
  | stream
  /-- To a file. -/
  | file (f : LogFile)
  deriving DecidableEq, Repr

/-- A channel. -/
structure Channel where
  /-- The number of the least level; zero for that of the next channel around it. -/
  level : Int := 0
  /-- Where its lines go. -/
  handlers : List Handler := []
  deriving Repr

/-- All loggers with the files that they write to. -/
structure Board where
  /-- The files. -/
  storage : Storage
  /-- The time that lines in files begin with. -/
  stamp : Text
  /-- The channels by their names. -/
  channels : List (Text × Channel) := []
  /-- The names of the loggers, by their numbers. -/
  loggers : List Text := []
  /-- The numbers of the registered loggers, by their names. -/
  registry : List (Text × Nat) := []
  /-- The open contexts, the outermost first. -/
  contexts : List Pairs := []
  /-- What has been written to the stream. -/
  stream : Text := []
  deriving Repr

/-- How lines in files are made up. -/
def lineForm : Text := "%(asctime)s - %(name)s - %(levelname)s - %(message)s"

/-- How the time in front of a line is made up. -/
def stampForm : Text := "%Y-%m-%d %H:%M:%S"

/-- The greatest size of a log file where nothing else is said. -/
def defaultLimit : Int := 10 * 1024 * 1024

/-- How many backups are kept where nothing else is said. -/
def defaultBackups : Int := 5

/-- The name of a logger where nothing else is said. -/
def defaultName : Text := "filefilter"

/-- The name of the logger of configurations. -/
def configLogger : Text := "filefilter.config"

/-- The name of the logger of filters. -/
def rulesLogger : Text := "filefilter.rules"

/-- The name of the outermost channel. -/
def outermost : Text := "root"

/-- Why a logger cannot be set up. -/
inductive Fault
  /-- A value cannot be worked with. -/
  | misuse (m : Misuse)
  /-- A file cannot be opened. -/
  | storage (f : Storage.Fault)
  deriving DecidableEq, Repr

/-- The name of the channel that a logger of a name writes to. -/
def channelName (name : Text) : Text :=
  if name.isEmpty then outermost else name

/-- The names of the channels around one, the next one first. -/
def namesAround (name : Text) : List Text :=
  let parts := Text.splitAtPoint '.' name
  ((List.range (parts.length - 1)).map fun n => Text.join "." (parts.take (n + 1))).reverse ++ [outermost]

namespace Board

/-- The channel of a name. -/
def channel (b : Board) (name : Text) : Channel :=
  (b.channels.lookup name).getD (if name = outermost then { level := Level.warning.number } else {})

/-- The board with a channel changed. -/
def onChannel (b : Board) (name : Text) (change : Channel → Channel) : Board :=
  { b with channels := (name, change (b.channel name)) :: b.channels.filter fun (n, _) => n != name }

/-- The name of a logger. -/
def nameOf (b : Board) (logger : Nat) : Text :=
  b.loggers.getD logger []

/-- The name of the channel of a logger. -/
def channelOf (b : Board) (logger : Nat) : Text :=
  channelName (b.nameOf logger)

/-- The level of the first of the channels that has one. -/
def firstLevel (b : Board) : List Text → Int
  | [] => 0
  | name :: names => if (b.channel name).level ≠ 0 then (b.channel name).level else firstLevel b names

/-- Whether a channel takes messages of a level. -/
def isEnabled (b : Board) (name : Text) (level : Int) : Bool :=
  b.firstLevel (if name = outermost then [name] else name :: namesAround name) ≤ level

/-! ### Setting up -/

/-- The board with another least level of a channel. -/
def withLevel (b : Board) (name : Text) (level : Value) : Except Misuse Board := do
  let n ← threshold level
  return b.onChannel name fun c => { c with level := n }

/-- A new logger, whose channel has these handlers and no others. -/
def create (b : Board) (name : Text) (level : Value) (handlers : List Handler) : Except Misuse (Nat × Board) := do
  let b ← b.withLevel (channelName name) level
  let b := b.onChannel (channelName name) fun c => { c with handlers }
  return (b.loggers.length, { b with loggers := b.loggers ++ [name] })

/-- The registry with a logger under a name, which keeps its place if it is there. -/
def enter (name : Text) (logger : Nat) : List (Text × Nat) → List (Text × Nat)
  | [] => [(name, logger)]
  | (n, l) :: rest => if n = name then (n, logger) :: rest else (n, l) :: enter name logger rest

/-- The board with a logger registered under its name. -/
def register (b : Board) (logger : Nat) : Board :=
  { b with registry := enter (b.nameOf logger) logger b.registry }

/-- The registered logger of a name; a new one if there is none. -/
def registered (b : Board) (name : Text) : Except Misuse (Nat × Board) :=
  match b.registry.lookup name with
  | some logger => .ok (logger, b)
  | none => do
    let (logger, b) ← b.create name (.text Level.info.name) [.console]
    return (logger, b.register logger)

/-- The board with a further handler of a channel, unless it has it. -/
def attach (b : Board) (name : Text) (handler : Handler) : Board :=
  b.onChannel name fun c =>
    if c.handlers.contains handler then c else { c with handlers := c.handlers ++ [handler] }

/-- The board without a handler of a channel. -/
def detach (b : Board) (name : Text) (handler : Handler) : Board :=
  b.onChannel name fun c => { c with handlers := c.handlers.erase handler }

/-- The path that a value is: a text, or octets. -/
def pathOf : Value → Except Misuse Path
  | .text t => Path.named t
  | .octets b => Path.named (Utf8.ofName b)
  | value => .error (.notPath value.kind)

/-- The board with a file that a channel writes to. -/
def addFile (b : Board) (name : Text) (file : Value) (limit backups : Int) : Except Fault Board := do
  let path ← (pathOf file).mapError .misuse
  let (number, storage) ← (b.storage.openToAppend path).mapError .storage
  let parts := match path with
    | .inside parts => parts
    | .elsewhere _ => []
  let f : LogFile := { parts, number, limit, backups }
  return { b with storage }.onChannel name fun c => { c with handlers := c.handlers ++ [Handler.file f] }

/-- The names with the levels of all registered loggers. -/
def levels (b : Board) : List (Text × Int) :=
  b.registry.map fun (name, logger) => (name, (b.channel (b.channelOf logger)).level)

/-- Gives the loggers a least level and a file, one after the other; what has been set stays when one fails. -/
def configureAll (level file : Value) : List Nat → Board → Board × Option Fault
  | [], b => (b, none)
  | logger :: rest, b =>
    let name := b.channelOf logger
    match b.withLevel name level with
    | .error m => (b, some (.misuse m))
    | .ok b =>
      if file.isNone then configureAll level file rest b
      else match b.addFile name file defaultLimit defaultBackups with
        | .error e => (b, some e)
        | .ok b => configureAll level file rest b

/-- Gives all registered loggers a least level, and a file unless it is no value. -/
def configure (b : Board) (level file : Value) : Board × Option Fault :=
  configureAll level file (b.registry.map Prod.snd) b

/-! ### Writing -/

/-- The name of a backup. -/
def backupName (parts : List Text) (n : Nat) : List Text :=
  parts.dropLast ++ [parts.getLast?.getD [] ++ (("." : Text) ++ Text.ofNat n)]

/-- The files with the backups of one each a place further, from the backup `n` down. -/
def shiftBackups (parts : List Text) : (n : Nat) → Storage → Storage
  | 0, s => s
  | n + 1, s => shiftBackups parts n (s.rename (backupName parts (n + 1)) (backupName parts (n + 2)))

/-- The files with one renamed to its first backup. -/
def rotate (f : LogFile) (s : Storage) : Storage :=
  if f.backups ≤ 0 then s
  else
    let s := shiftBackups f.parts (f.backups.toNat - 1) s
    (s.forget (backupName f.parts 1)).rename f.parts (backupName f.parts 1)

/-- Whether a file is full before a line of `length` code points. -/
def isFull (f : LogFile) (s : Storage) (length : Nat) : Bool :=
  0 < f.limit && f.limit ≤ ((s.octets f.number).length + length : Nat)

/-- The open file and the files, ready for a line of `length` code points. -/
def prepare (f : LogFile) (s : Storage) (length : Nat) : LogFile × Storage :=
  if isFull f s length then
    match (rotate f s).openToAppend (.inside f.parts) with
    | .ok (number, s) => ({ f with number }, s)
    | .error _ => (f, s)
  else (f, s)

/-- Writes a line to a file, if it can be encoded. -/
def writeFile (f : LogFile) (s : Storage) (line : Text) : LogFile × Storage :=
  let (f, s) := prepare f s line.length
  (f, if Utf8.encodable line then s.append f.number (Utf8.encode line) else s)

/-- A text with a further line. -/
def withLine (t line : Text) : Text :=
  (if t.getLast?.any (· == ('\n' : CodePoint)) then t else t ++ ("\n" : Text)) ++ line

/-- A message as it is written behind `head`, with the line of an incident. -/
def written (head message : Text) (incident : Option Text) : Text :=
  (match incident with
    | none => head ++ message
    | some line => withLine (head ++ message) line) ++ ("\n" : Text)

/-- Writes a message to the handlers of a channel; what has been written to the stream and the files comes with the
handlers. -/
def writeAll (b : Board) (name : Text) (level : Level) (message : Text) (incident : Option Text) :
    List Handler → (Text × Storage) → List Handler × Text × Storage
  | [], (stream, storage) => ([], stream, storage)
  | handler :: rest, (stream, storage) =>
    let (handler, out) : Handler × Text × Storage := match handler with
      | .console => (.console, stream, storage)
      | .stream =>
        (.stream, stream ++ written (name ++ (" " : Text) ++ level.name ++ (" " : Text)) message incident, storage)
      | .file f =>
        let head := b.stamp ++ (" - " : Text) ++ name ++ (" - " : Text) ++ level.name ++ (" - " : Text)
        let (f, storage) := writeFile f storage (written head message incident)
        (.file f, stream, storage)
    let (handlers, out) := writeAll b name level message incident rest out
    (handler :: handlers, out)

/-- Writes a message to a channel. -/
def write (b : Board) (name : Text) (level : Level) (message : Text) (incident : Option Text) : Board :=
  let (handlers, stream, storage) :=
    writeAll b name level message incident (b.channel name).handlers (b.stream, b.storage)
  { b with stream, storage }.onChannel name fun c => { c with handlers }

/-- Logs a message with pairs, and perhaps an incident, if it is grave enough. -/
def log (b : Board) (name : Text) (level : Level) (message : Text) (pairs : Pairs) (incident : Option Incident) :
    Except Misuse Board := do
  if !b.isEnabled name level.number then return b
  else
    let context ← (Pairs.update (Pairs.merged b.contexts) pairs).context
    let line ← incident.mapM Incident.line
    return b.write name level (withContext message context) line

/-- Logs entries one after the other, up to the first that cannot be logged. -/
def report (name : Text) (level : Level) : List Entry → Board → Board × Option Misuse
  | [], b => (b, none)
  | e :: rest, b =>
    match b.log name level e.message (e.context.map fun (key, shown) => (key, .text shown)) none with
    | .error m => (b, some m)
    | .ok b => report name level rest b

/-! ### What a program does with a logger -/

/-- Refuses pairs whose keys name the other parts of a call. -/
def checkParts (action : Text) (parts : List Text) (pairs : Pairs) : Except Misuse Unit :=
  match pairs.find? fun (key, _) => parts.contains key with
  | some (key, _) => .error (.partGivenTwice action key)
  | none => .ok ()

/-- Logs a message by a logger. -/
def message (b : Board) (logger : Nat) (action : Text) (level : Level) (message : Text) (pairs : Pairs) :
    Except Misuse Board := do
  checkParts action ["self", "msg"] pairs
  b.log (b.channelOf logger) level message pairs none

/-- Logs an incident by a logger. -/
def incident (b : Board) (logger : Nat) (message : Text) (incident : Incident) (pairs : Pairs) :
    Except Misuse Board := do
  checkParts "exception" ["self", "msg", "exc"] pairs
  let pairs := pairs.insert "exception_type" (.text incident.name)
  let pairs := pairs.insert "exception_message" (.text (← incident.text))
  b.log (b.channelOf logger) .error message pairs (some incident)

/-- Opens a context. -/
def openContext (b : Board) (pairs : Pairs) : Except Misuse Board := do
  checkParts "add_context" ["self"] pairs
  return { b with contexts := b.contexts ++ [pairs] }

/-- Closes the innermost context. -/
def closeContext (b : Board) : Board :=
  { b with contexts := b.contexts.dropLast }

end Board

end FileSieve.Log
