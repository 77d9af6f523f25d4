import FileSieve.Number.Shortest
import FileSieve.Text.Quoted
import FileSieve.Value.Misuse

/-!
# Values in messages

The plain form of a value stands for itself, such as a text without quotes; the shown form says what it is,
such as a text in quotes. Within a sequence or a dictionary every value is shown. An integer with more than
`maxDigits` digits has no form, and a date and time whose zone cannot tell its offset has no plain one.
-/

namespace FileSieve

/-- An integer in decimal digits, if they are not too many. -/
def Int.digits (n : Int) : Except Misuse Text :=
  if n.natAbs < Nat.pow 10 maxDigits then .ok (Text.ofInt n) else .error .tooLongToWrite

/-- A date with its parts. -/
def Date.shown (d : Date) : Text :=
  "datetime.date(" ++ Text.join ", " [Text.ofNat d.year, Text.ofNat d.month, Text.ofNat d.day] ++ ")"

/-- A date and time with its parts and its zone; seconds and microseconds only when they are not zero. -/
def DateTime.shownIn (zone : List Text) (d : DateTime) : Text :=
  let parts := [d.date.year, d.date.month, d.date.day, d.hour, d.minute]
    ++ (if d.second = 0 && d.microsecond = 0 then [] else [d.second])
    ++ (if d.microsecond = 0 then [] else [d.microsecond])
  "datetime.datetime(" ++ Text.join ", " (parts.map Text.ofNat ++ zone) ++ ")"

/-- A date and time with its parts and its offset. -/
def DateTime.shown (d : DateTime) : Text :=
  d.shownIn <|
    match d.offset with
    | none => []
    | some 0 => ["tzinfo=datetime.timezone.utc"]
    | some offset => ["tzinfo=datetime.timezone(" ++ DateTime.spanText offset ++ ")"]

namespace Value

mutual

/-- A value as it is shown. -/
def shown : Value → Except Misuse Text
  | .none => .ok "None"
  | .bool b => .ok (if b then "True" else "False")
  | .int n => Int.digits n
  | .float x => .ok x.text
  | .text t => .ok t.quoted
  | .octets b => .ok (Octets.quoted b)
  | .buffer b => .ok ("bytearray(" ++ Octets.quoted b ++ ")")
  | .list items => do return "[" ++ Text.join ", " (← shownItems items) ++ "]"
  | .tuple [item] => do return "(" ++ (← shown item) ++ ",)"
  | .tuple items => do return "(" ++ Text.join ", " (← shownItems items) ++ ")"
  | .dict entries => do return "\x7b" ++ Text.join ", " (← shownEntries entries) ++ "\x7d"
  | .set [] => .ok "set()"
  | .set items => do return "\x7b" ++ Text.join ", " (← shownItems items) ++ "\x7d"
  | .date d => .ok d.shown
  | .datetime d => .ok d.shown
  | .unplaced d _ => .ok (d.shownIn ["tzinfo=<datetime.tzinfo object>"])

/-- The items of a sequence as they are shown. -/
def shownItems : List Value → Except Misuse (List Text)
  | [] => .ok []
  | item :: items => do return (← shown item) :: (← shownItems items)

/-- The entries of a dictionary as they are shown. -/
def shownEntries : List (Value × Value) → Except Misuse (List Text)
  | [] => .ok []
  | (k, v) :: entries => do return ((← shown k) ++ (": " : Text) ++ (← shown v)) :: (← shownEntries entries)

end

/-- The plain form of a value. -/
def plain : Value → Except Misuse Text
  | .text t => .ok t
  | .date d => .ok d.text
  | .datetime d => .ok d.text
  | .unplaced .. => .error .noOffset
  | value => value.shown

end Value

end FileSieve
