import FileSieve.Value.Misuse

/-!
# Time zones

A zone is ahead of UTC by a fixed offset, or it is the one in which the process runs. The clocks there follow rules of
their own, which are asked second by second how far they are ahead, and may be put forward and back. So there are dates
and times that they skip and some that they show twice.

Seconds are counted like instants, from the midnight before the calendar begins, at UTC or as clocks show them.
-/

namespace FileSieve

/-- The rules of the clocks where the process runs. -/
structure Zone.Rules where
  /-- How many seconds they are ahead of UTC at a second at UTC. -/
  ahead : Int → Int
  /-- It is less than a day. -/
  ahead_lt : ∀ second, (ahead second).natAbs < 86400

/-- Where a clock stands. -/
inductive Zone
  /-- Ahead of UTC by a fixed offset. -/
  | fixed (offset : Offset)
  /-- Where the process runs. -/
  | local (rules : Zone.Rules)

namespace Zone

namespace Rules

/-- The rules of clocks that are always at UTC. -/
def utc : Rules where
  ahead _ := 0
  ahead_lt _ := by decide

/-- Seconds in a day. -/
def day : Int := 86400

/-- How far local clocks are ahead at a second, which they must show within the calendar. -/
def lead (r : Rules) (second : Int) : Except Misuse Int :=
  let number := (second + r.ahead second) / day
  if number < 1 then .error (.dateFault (.year 0))
  else if (Date.maxDayNumber : Int) < number then .error (.dateFault (.year (Date.maxYear + 1)))
  else .ok (r.ahead second)

/-- The second at UTC at which local clocks show a second. If they show it twice it is the first one, or the second one
if `later`. If they skip it there are two that it could be, by how far they are ahead before and behind the gap: it is
the later one, or the earlier one if `later`. -/
def resolve (r : Rules) (later : Bool) (second : Int) : Except Misuse Int := do
  let guess ← r.lead second
  let u := second - guess
  let there ← r.lead u
  -- The guess is confirmed: the clocks can only have been put back a day before or after.
  let other ← (if there = guess then r.lead (if later then u + day else u - day) else .ok there)
  if there = guess ∧ other = guess then return u
  else
    let v := second - other
    if (← r.lead v) = other then return v
    else if there = guess then return u
    else return if later then min u v else max u v

/-- What local clocks show at an instant. -/
def seen (r : Rules) (instant : Int) : Except Misuse DateTime :=
  let offset : Offset := r.ahead (instant / DateTime.perSecond) * DateTime.perSecond
  match DateTime.ofClock? (instant + offset) (some offset) with
  | some d => .ok d
  | none => .error .dateOverflow

/-- A naive date and time by local clocks. It is an instant that must be within the calendar at UTC too. -/
def place (r : Rules) (later : Bool) (d : DateTime) : Except Misuse DateTime := do
  let second ← r.resolve later ((d.clock : Int) / DateTime.perSecond)
  let instant : Int := d.clock - r.ahead second * DateTime.perSecond
  match DateTime.ofClock? instant (some 0) with
  | some _ => r.seen instant
  | none => .error .dateOverflow

/-- The naive date and time that local clocks show at an instant, and whether they show it for the second time. -/
def naive (r : Rules) (instant : Int) : Except Misuse (DateTime × Bool) := do
  let second := instant / DateTime.perSecond
  let now ← r.lead second
  let before ← r.lead (second - day)
  let again ← (if now < before then (r.lead (second + now - before)).map (· == before) else .ok false)
  match DateTime.ofClock? (instant + now * DateTime.perSecond) none with
  | some d => return (d, again)
  | none => .error .dateOverflow

/-- The date and time by local clocks that they show at an instant. -/
def shownAt (r : Rules) (instant : Int) : Except Misuse DateTime := do
  let (d, again) ← r.naive instant
  r.place again d

end Rules

/-- How far a zone is ahead of UTC at an instant. -/
def ahead : Zone → (instant : Int) → Offset
  | .fixed offset, _ => offset
  | .local rules, instant => rules.ahead (instant / DateTime.perSecond) * DateTime.perSecond

end Zone

end FileSieve
