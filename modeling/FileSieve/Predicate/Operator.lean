import FileSieve.Code
import FileSieve.Value.Sequence
import FileSieve.Value.Shown

/-!
# Comparison operators

Six comparisons with their symbols, and what they say of two values. Any two values can be asked whether
they are equal; an order have numbers, texts by their code points, octets, sequences by their first
difference, dates, and dates with a time when both or neither name an instant.
-/

namespace FileSieve

/-- A comparison. -/
inductive Operator
  /-- Greater. -/
  | gt
  /-- Less. -/
  | lt
  /-- Equal. -/
  | eq
  /-- Greater or equal. -/
  | ge
  /-- Less or equal. -/
  | le
  /-- Not equal. -/
  | ne
  deriving DecidableEq, Repr, Inhabited

namespace Operator

/-- The operators in their order. -/
def all : List Operator :=
  [.gt, .lt, .eq, .ge, .le, .ne]

/-- The symbol of an operator. -/
def symbol : Operator → Text
  | .gt => ">"
  | .lt => "<"
  | .eq => "="
  | .ge => ">="
  | .le => "<="
  | .ne => "<>"

/-- The name of an operator. -/
def name : Operator → Text
  | .gt => "GT"
  | .lt => "LT"
  | .eq => "EQ"
  | .ge => "GE"
  | .le => "LE"
  | .ne => "NE"

/-- The operator of a symbol; an empty one means equality. -/
def ofSymbol? (symbol : Text) : Option Operator :=
  if symbol.isEmpty then some .eq else all.find? fun op => op.symbol == symbol

/-- Whether a comparison holds of what is in an order. -/
def holds (op : Operator) (o : Ordering) : Bool :=
  match op with
  | .gt => o == .gt
  | .lt => o == .lt
  | .eq => o == .eq
  | .ge => o != .lt
  | .le => o != .gt
  | .ne => o != .eq

end Operator

/-- What is given as a symbol and is none. -/
structure UnknownOperator where
  /-- What is given. -/
  symbol : Value
  deriving Repr

/-- The wording for an unknown operator. -/
def UnknownOperator.message (e : UnknownOperator) : Except Misuse Text := do
  return "Unknown operator \"" ++ (← e.symbol.plain) ++ "\"."

/-- The code of an unknown operator: only the library itself looks for one. -/
def UnknownOperator.code (_ : UnknownOperator) : Code :=
  .internalError

/-- The operator of a value that should be a symbol. -/
def Value.asOperator (value : Value) : Except UnknownOperator Operator :=
  match value with
  | .text t =>
    match Operator.ofSymbol? t with
    | some op => .ok op
    | Option.none => .error ⟨value⟩
  | value => .error ⟨value⟩

namespace Value

/-- A value that is given in the place of an operator itself: it can only be found unknown, by its plain
form, if it can be looked up at all. -/
def asComparator (value : Value) : Except Misuse UnknownOperator := do
  let key ← value.asKey
  return ⟨.text (← key.plain)⟩

/-- What a comparison that asks for an order says of two scalars. -/
def scalarOrder (op : Operator) (a b : Value) : Except Misuse Bool :=
  match a.magnitude?, b.magnitude?, a.octets?, b.octets? with
  | some x, some y, _, _ => .ok ((x.compare? y).map op.holds == some true)
  | _, _, some x, some y => .ok (op.holds (Text.compare (Text.ofLatin1 x) (Text.ofLatin1 y)))
  | _, _, _, _ =>
    match a, b with
    | .text s, .text t => .ok (op.holds (Text.compare s t))
    | .date d, .date e => .ok (op.holds (compare d.dayNumber e.dayNumber))
    | .datetime d, .datetime e =>
      if d.isAware = e.isAware then .ok (op.holds (compare d.instant e.instant)) else .error .naiveAndAware
    | .unplaced d _, .unplaced e _ => .ok (op.holds (compare d.clock e.clock))
    | .datetime _, .date _ | .date _, .datetime _ | .unplaced .., .date _ | .date _, .unplaced .. => .error .timeAndDate
    | a, b => .error (.unordered op.symbol a.kind b.kind)

mutual

/-- What a comparison that asks for an order says of two values. -/
def order (op : Operator) : Value → Value → Except Misuse Bool
  | .list as, .list bs => orderItems op as bs
  | .tuple as, .tuple bs => orderItems op as bs
  | a, b => scalarOrder op a b

/-- What it says of two sequences: their first difference decides. -/
def orderItems (op : Operator) : List Value → List Value → Except Misuse Bool
  | [], [] => .ok (op.holds .eq)
  | [], _ :: _ => .ok (op.holds .lt)
  | _ :: _, [] => .ok (op.holds .gt)
  | a :: as, b :: bs => if a.equal b then orderItems op as bs else order op a b

end

/-- Whether it takes the offsets of two dates and times to compare them, but a zone cannot tell. In one zone it does
not. -/
def isAdrift : Value → Value → Bool
  | .unplaced _ zone, .unplaced _ zone' => zone != zone'
  | .unplaced .., .datetime _ | .datetime _, .unplaced .. => true
  | _, _ => false

/-- What a comparison says of two values. -/
def relate (left : Value) (op : Operator) (right : Value) : Except Misuse Bool :=
  if left.isAdrift right then .error .noOffset
  else match op with
    | .eq => .ok (left.equal right)
    | .ne => .ok !(left.equal right)
    | op => order op left right

end Value

end FileSieve
