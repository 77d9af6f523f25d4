import FileSieve.Text.Case
import FileSieve.Value.Shown

/-!
# Levels of a log

How grave a message is. A logger has a least level, which is given by the name of one, in either case, or by any
number.
-/

namespace FileSieve.Log

/-- A level. -/
inductive Level
  /-- For those who follow every step. -/
  | debug
  /-- For those who follow the course of things. -/
  | info
  /-- Something may be wrong. -/
  | warning
  /-- Something is wrong. -/
  | error
  /-- Nothing can go on. -/
  | critical
  deriving DecidableEq, Repr

namespace Level

/-- The levels in their order. -/
def all : List Level :=
  [.debug, .info, .warning, .error, .critical]

/-- The number of a level. -/
def number : Level → Int
  | .debug => 10
  | .info => 20
  | .warning => 30
  | .error => 40
  | .critical => 50

/-- The name of a level. -/
def name : Level → Text
  | .debug => "DEBUG"
  | .info => "INFO"
  | .warning => "WARNING"
  | .error => "ERROR"
  | .critical => "CRITICAL"

/-- The level of a number. -/
def ofNumber (n : Int) : Except Misuse Level :=
  match all.find? fun level => level.number = n with
  | some level => .ok level
  | none => .error (.unknownLevel n)

/-- The level of a name in either case. -/
def ofName (t : Text) : Except Misuse Level :=
  match all.find? fun level => level.name == t.upper with
  | some level => .ok level
  | none => .error (.unknownName t.upper)

end Level

/-- The number of a least level: a name of one, or any number. -/
def threshold (value : Value) : Except Misuse Int :=
  match value with
  | .text t => (Level.ofName t).map Level.number
  | .int n => .ok n
  | .bool b => .ok (if b then 1 else 0)
  | value =>
    match value.shown with
    | .ok shown => .error (.notLevel shown)
    | .error m => .error m

end FileSieve.Log
