import FileSieve.Pattern.Search
import FileSieve.Value.Sequence

/-!
# Searching in any value

A search is asked of a value from an offset on that is a value too. Texts and octets can be searched; for the
rest this module says what is wrong with them. The offset is looked at first, then the length of the subject,
then what the subject is, then the pattern, and at last whether the offset is an integer at all.
-/

namespace FileSieve.Pattern

/-- Searches a value that is neither text nor octets and that has a length: it is found out to be unfit as soon
as it is read as text or searched. -/
def searchUnfit (p : Pattern) (kind : Kind) (misuse : Misuse) : Except SearchFailure (Option Found) :=
  if p.isUnicode then .error (.misuse (.noMember kind "encode"))
  else do
    let _ ← p.engine
    .error (.misuse misuse)

/-- Searches a value from an integer offset on. -/
def searchAt (p : Pattern) (subject : Value) (offset : Int) : Except SearchFailure (Option Found) :=
  match subject with
  | .text t => p.searchText t offset
  | .octets b | .buffer b => p.searchOctets b offset
  | value =>
    if offset < 0 then p.outside offset
    else match value.length with
      | .error m => .error (.misuse m)
      | .ok length =>
        if !within offset length then p.outside offset
        else p.searchUnfit value.kind (.notSearchable value.kind)

/-- Searches a value from an offset on that is a floating-point number, which no search can begin at. -/
def searchAtFloat (p : Pattern) (subject : Value) (offset : Binary64) : Except SearchFailure (Option Found) :=
  if offset.compareInt? 0 = some .lt then p.impossible (.outside offset.text)
  else match subject.length with
    | .error m => .error (.misuse m)
    | .ok length =>
      if offset.compareInt? length = some .gt then p.impossible (.outside offset.text)
      else
        let noInteger : Except SearchFailure (Option Found) := do
          let _ ← p.engine
          .error (.misuse (.notInteger .float))
        match subject with
        | .text t => if p.isUnicode && !Utf8.encodable t then p.impossible .malformed else noInteger
        | .octets b | .buffer b =>
          if !p.isUnicode then noInteger
          else match Utf8.decode b with
            | .error _ => p.impossible .malformed
            | .ok _ =>
              if offset.compareInt? length = some .lt then .error (.misuse (.notOctetIndex subject.kind .float))
              else .error (.misuse .notSliceEnd)
        | value => p.searchUnfit value.kind (.notInteger .float)

/-- Searches a value from an offset on. -/
def search (p : Pattern) (subject : Value) (offset : Value := .int 0) : Except SearchFailure (Option Found) :=
  match offset with
  | .int n => p.searchAt subject n
  | .bool b => p.searchAt subject (if b then 1 else 0)
  | .float x => p.searchAtFloat subject x
  | value => .error (.misuse (.unordered "<" value.kind .int))

/-- Whether a pattern matches somewhere in a value. -/
def matchesIn (p : Pattern) (subject : Value) (offset : Value := .int 0) : Except SearchFailure Bool :=
  (p.search subject offset).map Option.isSome

end FileSieve.Pattern
