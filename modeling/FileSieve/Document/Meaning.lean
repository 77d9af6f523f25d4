import FileSieve.Document.Plain
import FileSieve.Number.Radix
import FileSieve.Text.Base64
import FileSieve.Text.Case
import FileSieve.Value.Position
import FileSieve.Value.Sequence

/-!
# What nodes mean

The value of a node is the one that its tag asks for. A mapping takes over the entries of the mappings under its merge
keys, in front of its own; of equal keys the last one decides, at the place of the first.

Collections are filled from the outside in, all of one depth before any that lies deeper. So of several faults the one
at the least depth counts, and of those the first in the document.

A mapping that a document refers to again, or takes over with the entries of another one, means one dictionary, which
stands at several positions.
-/

namespace FileSieve.Document

/-! ### Scalars -/

/-- The text without low lines. -/
def withoutLowLines (t : Text) : Text :=
  t.filter (· != ('_' : CodePoint))

/-- The integer of a text in base two, eight or sixteen. -/
def integerIn (base : Nat) (t : Text) : Except Misuse Int :=
  match t.toIntIn? base with
  | some n => .ok n
  | none => .error (.notIntegerText base t)

/-- The integer of a text in base ten. -/
def integerInTen (t : Text) : Except Misuse Int :=
  match t.toInt with
  | .ok n => .ok n
  | .error .malformed => .error (.notIntegerText 10 t)
  | .error (.tooLong digits) => .error (.tooManyDigits digits)

/-- The integer of a text without a sign and without low lines. -/
def unsignedInteger (t : Text) : Except Misuse Int :=
  if t = ("0" : Text) then .ok 0
  else match after? "0b" t, after? "0x" t, t with
    | some digits, _, _ => integerIn 2 digits
    | _, some digits, _ => integerIn 16 digits
    | _, _, [] => .error .emptyText
    | _, _, c :: _ =>
      if c = '0' then integerIn 8 t
      else if t.contains (':' : CodePoint) then do
        let digits ← (Text.splitAtPoint ':' t).mapM integerInTen
        return digits.foldl (fun n digit => n * 60 + digit) 0
      else integerInTen t

/-- Whether a text begins with a minus sign; there must be a beginning. -/
def beginsNegative : Text → Except Misuse Bool
  | [] => .error .emptyText
  | c :: _ => .ok (c = '-')

/-- The integer of a text. -/
def integer (t : Text) : Except Misuse Int := do
  let t := withoutLowLines t
  let negative ← beginsNegative t
  let n ← unsignedInteger (unsigned t)
  return if negative then -n else n

/-- The floating-point number of a text in base ten. -/
def numberInTen (t : Text) : Except Misuse Binary64 :=
  match t.toBinary64? with
  | some x => .ok x
  | none => .error (.notNumberText t)

/-- The sum of digits times powers of sixty; the last digit comes first and counts `base`. -/
def sexagesimalSum : (base : Nat) → (sum : Binary64) → (digits : List Binary64) → Binary64
  | _, sum, [] => sum
  | base, sum, digit :: digits => sexagesimalSum (base * 60) (sum.add (digit.mul (.ofInt base))) digits

/-- The floating-point number of a text without a sign and without low lines. -/
def unsignedNumber (t : Text) : Except Misuse Binary64 :=
  if t = (".inf" : Text) then .ok (.infinite false)
  else if t = (".nan" : Text) then .ok .nan
  else if t.contains (':' : CodePoint) then do
    let digits ← (Text.splitAtPoint ':' t).mapM numberInTen
    return sexagesimalSum 1 (.finite false 0) digits.reverse
  else numberInTen t

/-- The floating-point number of a text. -/
def number (t : Text) : Except Misuse Binary64 := do
  let t := (withoutLowLines t).lower
  let negative ← beginsNegative t
  let x ← unsignedNumber (unsigned t)
  return if negative then x.neg else x

/-- The truth value of a word in either case. -/
def truthOf (t : Text) : Except Misuse Bool :=
  let word := t.lower
  if (["yes", "true", "on"] : List Text).contains word then .ok true
  else if (["no", "false", "off"] : List Text).contains word then .ok false
  else .error (.unknownName word)

/-- How far a clock is ahead of UTC. -/
def WrittenOffset.offset (w : WrittenOffset) : Offset :=
  let n : Int := ((w.hours * 60 + w.minutes) * 60 * DateTime.perSecond : Nat)
  if w.negative then -n else n

/-- The date, perhaps with a time of day, of a text. -/
def instantOf (t : Text) : Except Misuse Value :=
  match writtenInstant? (withoutLastBreak t) with
  | none => .error (.noMember .none "groupdict")
  | some w =>
    match w.time with
    | none => ((Date.of w.year w.month w.day).mapError .dateFault).map Value.date
    | some time => do
      let offset ← (time.offset.map WrittenOffset.offset).mapM fun span =>
        (DateTime.checkOffset span).mapError Misuse.timeFault
      let date ← (Date.of w.year w.month w.day).mapError .dateFault
      return .datetime
        (← (DateTime.of date time.hour time.minute time.second time.microsecond offset).mapError .timeFault)

/-- The octets of a text in base 64. -/
def octetsOf (t : Text) : Except Fault Value :=
  if t.all CodePoint.isAscii then
    match Base64.decode? t with
    | some octets => .ok (.octets octets)
    | none => .error .malformed
  else .error .malformed

/-- The value of a text with a tag of scalars. -/
def scalarValue (tag : Tag) (t : Text) : Except Fault Value :=
  match tag with
  | .null => .ok .none
  | .bool => ((truthOf t).map Value.bool).mapError .misuse
  | .int => ((integer t).map Value.int).mapError .misuse
  | .float => ((number t).map Value.float).mapError .misuse
  | .binary => octetsOf t
  | .timestamp => (instantOf t).mapError .misuse
  | .str => .ok (.text t)
  | _ => .error .malformed

/-! ### Collections -/

/-- Whether a tag asks for a collection. -/
def Tag.isCollection : Tag → Bool
  | .omap | .pairs | .set | .seq | .map => true
  | _ => false

/-- What a node means. -/
structure Meaning where
  /-- The value. -/
  value : Value
  /-- The dictionaries in it, by the numbers of their mappings, with their positions. -/
  dicts : List (Nat × Position) := []

namespace Meaning

/-- The dictionaries in what a step leads to. -/
def behind (step : Step) (m : Meaning) : List (Nat × Position) :=
  m.dicts.map fun (number, position) => (number, step :: position)

/-- A sequence of what its items mean. -/
def sequence (make : List Value → Value) (items : List Meaning) : Meaning where
  value := make (items.map value)
  dicts := items.zipIdx.flatMap fun (m, n) => m.behind (.item n)

/-- The dictionaries in entries, where of equal keys the last one decides. -/
def inEntries (pairs : List (Meaning × Meaning)) : List (Nat × Position) :=
  pairs.foldl (fun dicts (k, v) =>
    dicts.filter (fun (_, position) => !position.within [.key k.value]) ++ v.behind (.key k.value)) []

/-- The dictionary of a mapping with a number. -/
def dict (number : Nat) (pairs : List (Meaning × Meaning)) : Meaning where
  value := .dict (Entries.ofList (pairs.map fun (k, v) => (k.value, v.value)))
  dicts := (number, []) :: inEntries pairs

/-- The positions of each dictionary that stands at more than one. -/
def shared (m : Meaning) : List (List Position) :=
  let numbers := (m.dicts.map Prod.fst).eraseDups
  let groups := numbers.map fun number => (m.dicts.filter fun dict => dict.1 == number).map Prod.snd
  groups.filter fun positions => 1 < positions.length

end Meaning

/-- A fault at a depth. -/
structure DeepFault where
  /-- The depth. -/
  depth : Nat
  /-- The fault. -/
  fault : Fault

/-- What a node means, or its fault. -/
abbrev Outcome := Except DeepFault Meaning

/-- The faults of outcomes. -/
def faults (outcomes : List Outcome) : List DeepFault :=
  outcomes.filterMap fun outcome => match outcome with
    | .error e => some e
    | .ok _ => none

/-- The first of the faults at the least depth. -/
def firstFault : List DeepFault → Option DeepFault
  | [] => none
  | e :: rest =>
    match firstFault rest with
    | some later => if later.depth < e.depth then some later else some e
    | none => some e

/-- The meanings of outcomes, unless there are faults. -/
def allMeanings (outcomes : List Outcome) : Except DeepFault (List Meaning) :=
  match firstFault (faults outcomes) with
  | some e => .error e
  | none => .ok (outcomes.filterMap fun outcome => outcome.toOption)

/-- The meanings of keys with those of their values, unless there are faults. -/
def allPairs (pairs : List (Outcome × Outcome)) : Except DeepFault (List (Meaning × Meaning)) :=
  match firstFault (faults (pairs.flatMap fun (k, v) => [k, v])) with
  | some e => .error e
  | none => .ok (pairs.filterMap fun (k, v) => k.toOption.bind fun k => v.toOption.map fun v => (k, v))

/-- The entries of a mapping, keys with values: those that it takes over, and its own. -/
structure Taken where
  /-- The entries of other mappings. -/
  merged : List (Outcome × Outcome)
  /-- Its own entries. -/
  own : List (Outcome × Outcome)

/-- All entries of a mapping. -/
def Taken.all (t : Taken) : List (Outcome × Outcome) :=
  t.merged ++ t.own

mutual

/-- The text of a node that should be a scalar; a mapping has the text of its own value. -/
def scalarText? : Node → Option Text
  | .scalar _ t => some t
  | .sequence _ _ => none
  | .mapping _ _ entries => ownText? entries

/-- The text of the own value among the entries of a mapping. -/
def ownText? : List (Node × Node) → Option Text
  | [] => none
  | (k, v) :: entries => if k.tag = .value then scalarText? v else ownText? entries

end

/-- What a text with a tag of scalars means at a depth. -/
def scalarMeaning (depth : Nat) (tag : Tag) (t : Text) : Outcome :=
  match scalarValue tag t with
  | .ok value => .ok { value }
  | .error fault => .error ⟨depth, fault⟩

mutual

/-- What a node means at a depth. -/
def meaning (depth : Nat) : Node → Outcome
  | .scalar tag t => if tag.isCollection then .error ⟨depth + 1, .malformed⟩ else scalarMeaning depth tag t
  | .sequence tag items =>
    match tag with
    | .seq => (allMeanings (meanings (depth + 1) items)).map (Meaning.sequence .list)
    | .omap | .pairs => (allPairs (singlePairs (depth + 1) items)).map fun pairs =>
        .sequence .list (pairs.map fun (k, v) => .sequence .tuple [k, v])
    | tag => .error ⟨if tag.isCollection then depth + 1 else depth, .malformed⟩
  | .mapping tag number entries =>
    match tag with
    | .map => do
      let taken ← (takeEntries (depth + 1) entries).mapError fun fault => ⟨depth + 1, fault⟩
      return .dict number (← allPairs taken.all)
    | .set => do
      let taken ← (takeEntries (depth + 1) entries).mapError fun fault => ⟨depth + 1, fault⟩
      let pairs ← allPairs taken.all
      return { value := .set ((Entries.ofList (pairs.map fun (k, v) => (k.value, v.value))).map Prod.fst) }
    | tag =>
      if tag.isCollection then .error ⟨depth + 1, .malformed⟩
      else match ownText? entries with
        | none => .error ⟨depth, .malformed⟩
        | some t =>
          if tag = .timestamp then .error ⟨depth, .misuse (.notSearchable .list)⟩ else scalarMeaning depth tag t

/-- What nodes mean at a depth. -/
def meanings (depth : Nat) : List Node → List Outcome
  | [] => []
  | node :: nodes => meaning depth node :: meanings depth nodes

/-- The pairs of a sequence of mappings with one entry each. -/
def singlePairs (depth : Nat) : List Node → List (Outcome × Outcome)
  | [] => []
  | .mapping _ _ [(k, v)] :: nodes => (meaning depth k, meaning depth v) :: singlePairs depth nodes
  | _ :: nodes => (.error ⟨depth, .malformed⟩, .ok { value := .none }) :: singlePairs depth nodes

/-- The entries of a mapping with those that it takes over. A collection can be no key; a key for the value of its own
is a text here. -/
def takeEntries (depth : Nat) : List (Node × Node) → Except Fault Taken
  | [] => .ok ⟨[], []⟩
  | (k, v) :: entries =>
    if k.tag = .merge then
      match v with
      | .mapping _ _ others => do
        let first ← takeEntries depth others
        let rest ← takeEntries depth entries
        return ⟨first.all ++ rest.merged, rest.own⟩
      | .sequence _ nodes => do
        let first ← takeMappings depth nodes
        let rest ← takeEntries depth entries
        return ⟨first ++ rest.merged, rest.own⟩
      | .scalar _ _ => .error .malformed
    else do
      let key : Outcome :=
        if k.tag.isCollection then .error ⟨depth, .malformed⟩
        else if k.tag = .value then
          match scalarText? k with
          | some t => .ok { value := .text t }
          | none => .error ⟨depth, .malformed⟩
        else meaning depth k
      let rest ← takeEntries depth entries
      return ⟨rest.merged, (key, meaning depth v) :: rest.own⟩

/-- The entries of mappings, those of the last one first. -/
def takeMappings (depth : Nat) : List Node → Except Fault (List (Outcome × Outcome))
  | [] => .ok []
  | .mapping _ _ entries :: nodes => do
    let first ← takeEntries depth entries
    let rest ← takeMappings depth nodes
    return rest ++ first.all
  | _ :: _ => .error .malformed

end

/-- A loader of documents: what the document in a text means, or its fault. -/
abbrev Loader := Text → Except Fault Meaning

end FileSieve.Document
