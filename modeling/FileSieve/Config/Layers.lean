import FileSieve.Config.Site
import FileSieve.Config.Validation

/-!
# Layers of a configuration

What a source with more weight says covers what the others say; dictionaries are merged key by key. A layer is looked
into and changed by paths of keys.

Changing a layer by a path makes the dictionaries that are missing on the way, one after the other, and fails where the
way is blocked by another value. What is loaded is copied. What is set is not, so that a value which the program gives
twice stands at two places then, and what is put into a dictionary shows wherever this dictionary stands.
-/

namespace FileSieve

/-! ### Paths of keys -/

namespace Entries

/-- The value at the end of a path of keys; none where a key is missing or its value is no dictionary. -/
def at? (entries : Entries) : (path : List Text) → Option Value
  | [] => some (.dict entries)
  | [key] => entries.get? (.text key)
  | key :: path =>
    match entries.get? (.text key) with
    | some (.dict inner) => at? inner path
    | _ => none

/-- What is wrong with a value that blocks the way, with `left` keys to go. -/
def blocked (value : Value) (left : Nat) : Misuse :=
  if 1 < left then .noMember value.kind "setdefault"
  else match value with
    | .list _ | .buffer _ => .textIndex value.kind
    | value => .notAssignable value.kind

/-- The entries with a value under a key of the dictionary at a position. -/
def putAt (key : Text) (item : Value) (position : Position) (entries : Entries) : Entries :=
  match position with
  | [] => entries.insert (.text key) item
  | .key k :: position => entries.modify k (Value.putAt key item position)
  | .item _ :: _ => entries

/-- The entries with a value at the end of a path of keys. -/
def assign (value : Value) : (path : List Text) → Entries → Except Misuse Entries
  | [], entries => .ok entries
  | [key], entries => .ok (entries.insert (.text key) value)
  | key :: next :: path, entries =>
    match entries.get? (.text key) with
    | none => do return entries.insert (.text key) (.dict (← assign value (next :: path) []))
    | some (.dict inner) => do return entries.insert (.text key) (.dict (← assign value (next :: path) inner))
    | some other => .error (blocked other (path.length + 1))

end Entries

/-! ### Merging -/

mutual

/-- A value laid over another one: over a dictionary a dictionary is merged, anything else covers. -/
def Value.laidOver (under : Option Value) : Value → Value
  | .dict upper =>
    match under with
    | some (.dict entries) => .dict (Entries.laidOver entries upper)
    | _ => .dict upper
  | value => value

/-- Entries with those of `upper` laid over them. -/
def Entries.laidOver (entries : Entries) : (upper : List (Value × Value)) → Entries
  | [] => entries
  | (key, value) :: upper => Entries.laidOver (entries.insert key (Value.laidOver (entries.get? key) value)) upper

end

namespace Config

/-- What the sources of a configuration say. -/
structure Layers where
  /-- The layers of the sources. -/
  store : Store := .start
  /-- The values that the program keeps, which it may give to be set. -/
  kept : List Value := []
  /-- The places of dictionaries, those of one dictionary together; one of which nothing is here stands at one place. -/
  shared : List (List Site) := []

namespace Layers

/-- What a source says. -/
def layer (l : Layers) (source : Source) : Entries :=
  (l.store.layer? source).getD []

/-- The places of dictionaries without those that are gone. -/
def sharedBut (l : Layers) (gone : Site → Bool) : List (List Site) :=
  l.shared.map fun group => group.filter fun place => !gone place

/-- The layers with another one of a source, in which dictionaries may be shared. -/
def replace (l : Layers) (source : Source) (entries : Entries) (shared : List (List Position) := []) : Layers :=
  { l with
    store := l.store.put source entries
    shared := l.sharedBut (·.inLayer (· = source)) ++
      shared.map fun positions => positions.map (Site.mk (.layer source)) }

/-- The configuration: the layers laid over each other. -/
def merged (l : Layers) : Entries :=
  l.store.byWeight.foldl (fun entries layer => Entries.laidOver entries layer.2) []

/-- The keys of a path, which are written with points between them. -/
def keys (path : Text) : List Text :=
  Text.splitAtPoint '.' path

/-- The value at a path, and `default` where there is none. -/
def get (l : Layers) (path : Text) (default : Value := .none) : Value :=
  match l.merged.at? (keys path) with
  | none | some .none => default
  | some value => value

/-- What is given to be set. -/
def value (l : Layers) : Given → Value
  | .new value => value
  | .kept number => l.kept.getD number .none

/-- The positions of dictionaries in what is given, those of one dictionary together. -/
def sharedWithin (l : Layers) : Given → List (List Position)
  | .new _ => []
  | .kept number =>
    let groups := l.shared.filter fun group => group.any fun place => place.holder = .kept number
    groups.map fun group => (group.filter fun place => place.holder = .kept number).map Site.position

/-- The other places at which the dictionary at a place stands as well. No dictionary stands within itself. -/
def others (l : Layers) (place : Site) : List Site :=
  let groups := l.shared.filter fun group => group.any place.same
  groups.flatten.filter fun other => !place.meets other

/-- The places of the dictionary at the end of a path of keys. -/
def places (l : Layers) (source : Source) (path : List Text) : List Site :=
  .ofKeys source path :: l.others (.ofKeys source path)

/-- The places of what is under a key of this dictionary. -/
def placesUnder (l : Layers) (source : Source) (path : List Text) (key : Text) : List Site :=
  (l.places source path).map (·.below [.key (.text key)])

/-- The layers with a value under a key of the dictionary at one place. -/
def putAt (l : Layers) (key : Text) (value : Value) (place : Site) : Layers :=
  match place.holder with
  | .layer source => { l with store := l.store.put source ((l.layer source).putAt key value place.position) }
  | .kept number => { l with kept := l.kept.modify number (Value.putAt key value place.position) }

/-- The layers with what is given under a key of the dictionary at the end of a path of keys, and so wherever this
dictionary stands. What was under the key is at its other places only. A dictionary in what is given stands at one place
more for each place of the one it is put in. -/
def put (l : Layers) (source : Source) (path : List Text) (key : Text) (given : Given) : Layers :=
  let value := l.value given
  let under := l.placesUnder source path key
  { (l.places source path).foldl (fun l place => l.putAt key value place) l with
    shared := given.joined under value.dictPositions (l.sharedBut fun place => under.any place.within) }

/-- The layers with what is given at a path of keys of one of them, and what went wrong: `current` is what is at the keys
that have been passed, `left` are those to go. -/
def setFrom (source : Source) (given : Given) :
    (current : Value) → (passed left : List Text) → Layers → Layers × Option Misuse
  | _, _, [], l => (l, none)
  | .dict _, passed, [key], l => (l.put source passed key given, none)
  | .dict entries, passed, key :: next :: left, l =>
    match Entries.get? entries (.text key) with
    | some inner => setFrom source given inner (passed ++ [key]) (next :: left) l
    | none =>
      setFrom source given (.dict []) (passed ++ [key]) (next :: left) (l.put source passed key (.new (.dict [])))
  | current, _, left, l => (l, some (Entries.blocked current left.length))

/-- The layers with one of a source, an empty one if there was none. -/
def opened (l : Layers) (source : Source) : Layers :=
  if (l.store.layer? source).isSome then l else { l with store := l.store.put source [] }

/-- The layers with what is given at a path of one of them, and what went wrong. -/
def set (l : Layers) (path : Text) (given : Given) (source : Source := .runtime) : Layers × Option Misuse :=
  setFrom source given (.dict (l.layer source)) [] (keys path) (l.opened source)

/-- The layers with a valid configuration as one of them, in which dictionaries may be shared. -/
def load (l : Layers) (config : Value) (source : Source := .runtime) (shared : List (List Position) := []) :
    Except Refusal Layers := do
  check config
  match config with
  | .dict entries => return l.replace source entries shared
  | _ => refuse .notDict

/-- The layers without those of some sources. -/
def without (l : Layers) (gone : Source → Bool) : Layers :=
  { l with store := l.store.without gone, shared := l.sharedBut (·.inLayer gone) }

/-- The layers without that of a source; what holds where nothing is configured stays. -/
def clear (l : Layers) (source : Source) : Layers :=
  l.without fun other => other = source && other ≠ .compiledDefaults

/-- The layers with nothing but what holds where nothing is configured. -/
def clearAll (l : Layers) : Layers :=
  l.without fun other => other ≠ .compiledDefaults

/-- The section of the filter. -/
def filterConfig (l : Layers) : Value :=
  l.get (Text.join "." [Key.root, Key.filter]) (.dict [])

/-- The section of the log. -/
def loggingConfig (l : Layers) : Value :=
  l.get (Text.join "." [Key.root, Key.logging]) (.dict [])

end Layers

end Config

end FileSieve
