import FileSieve.Config.Key

/-!
# Stores of layers

A configuration has four sources. What each of them says is its layer. A source has no layer before something is loaded
or set there, and none after it has been cleared, so a store has its layers in the order in which they were made.
-/

namespace FileSieve.Config

/-- A source of a configuration. -/
inductive Source
  /-- What holds where nothing is configured. -/
  | compiledDefaults
  /-- A file of the user. -/
  | userConfig
  /-- Variables of the environment. -/
  | environment
  /-- The running program. -/
  | runtime
  deriving DecidableEq, Repr

namespace Source

/-- The sources by their weight, the least one first. -/
def all : List Source :=
  [.compiledDefaults, .userConfig, .environment, .runtime]

/-- The weight of a source. -/
def weight : Source → Nat
  | .compiledDefaults => 1
  | .userConfig => 2
  | .environment => 3
  | .runtime => 4

/-- The name of a source. -/
def name : Source → Text
  | .compiledDefaults => "COMPILED_DEFAULTS"
  | .userConfig => "USER_CONFIG"
  | .environment => "ENVIRONMENT"
  | .runtime => "RUNTIME"

end Source

/-- Layers with their sources, with another layer of a source: in its place, or at the end if the source has none. -/
def putLayer (source : Source) (entries : Entries) : List (Source × Entries) → List (Source × Entries)
  | [] => [(source, entries)]
  | layer :: layers =>
    if layer.1 = source then (source, entries) :: layers else layer :: putLayer source entries layers

theorem mem_putLayer {source other : Source} {entries : Entries} {layers : List (Source × Entries)} :
    other ∈ (putLayer source entries layers).map Prod.fst ↔ other = source ∨ other ∈ layers.map Prod.fst := by
  induction layers with
  | nil => simp [putLayer]
  | cons layer layers ih =>
    rw [putLayer]
    split
    · rename_i hsame
      simp [← hsame]
    · simp [ih, or_left_comm]

theorem nodup_putLayer {source : Source} {entries : Entries} {layers : List (Source × Entries)}
    (h : (layers.map Prod.fst).Nodup) : ((putLayer source entries layers).map Prod.fst).Nodup := by
  induction layers with
  | nil => simp [putLayer]
  | cons layer layers ih =>
    obtain ⟨hfresh, hrest⟩ := List.nodup_cons.mp h
    rw [putLayer]
    split
    · rename_i hsame
      exact List.nodup_cons.mpr ⟨hsame ▸ hfresh, hrest⟩
    · rename_i hother
      exact List.nodup_cons.mpr ⟨fun hmem => (mem_putLayer.mp hmem).elim hother hfresh, ih hrest⟩

/-- The layers of the sources that have one. -/
structure Store where
  /-- The layers with their sources, in the order in which they were made. -/
  layers : List (Source × Entries)
  /-- No source has two layers. -/
  distinct : (layers.map Prod.fst).Nodup

namespace Store

/-- The store in which there is only what holds where nothing is configured. -/
def start : Store where
  layers := [(.compiledDefaults, Key.defaults)]
  distinct := by decide

/-- The layer of a source. -/
def layer? (s : Store) (source : Source) : Option Entries :=
  (s.layers.find? fun layer => layer.1 = source).map Prod.snd

/-- The store with another layer of a source. -/
def put (s : Store) (source : Source) (entries : Entries) : Store where
  layers := putLayer source entries s.layers
  distinct := nodup_putLayer s.distinct

/-- The store without the layers of some sources. -/
def without (s : Store) (gone : Source → Bool) : Store where
  layers := s.layers.filter fun layer => !gone layer.1
  distinct := (List.filter_sublist.map Prod.fst).nodup s.distinct

/-- Layers, the least weight first, with one more of them behind those of no more weight. -/
def insertByWeight (layer : Source × Entries) : List (Source × Entries) → List (Source × Entries)
  | [] => [layer]
  | first :: rest =>
    if layer.1.weight < first.1.weight then layer :: first :: rest else first :: insertByWeight layer rest

/-- The layers with their sources, the least weight first. -/
def byWeight (s : Store) : List (Source × Entries) :=
  s.layers.foldl (fun sorted layer => insertByWeight layer sorted) []

end Store

end FileSieve.Config
