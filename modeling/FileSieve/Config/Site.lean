import FileSieve.Config.Store
import FileSieve.Value.Position

/-!
# Places of dictionaries

One dictionary can stand at several places: in one layer twice, as an alias of a document does, in the layers of two
sources, and in a value of the program that it has given to be set there. What is put into it shows at each of them. A
dictionary is not put into itself.
-/

namespace FileSieve.Config

/-- What holds dictionaries. -/
inductive Holder
  /-- The layer of a source. -/
  | layer (source : Source)
  /-- A value that the program keeps, by its number. -/
  | kept (number : Nat)
  deriving DecidableEq, Repr

/-- A place at which a value stands. -/
structure Site where
  /-- What holds it. -/
  holder : Holder
  /-- Its position there. -/
  position : Position

namespace Site

/-- The place at the end of a path of keys in the layer of a source. -/
def ofKeys (source : Source) (path : List Text) : Site where
  holder := .layer source
  position := .ofKeys path

/-- The place of what stands at a position of a value. -/
def below (place : Site) (position : Position) : Site :=
  { place with position := place.position ++ position }

/-- Whether a place is in the layer of one of some sources. -/
def inLayer (sources : Source → Bool) (place : Site) : Bool :=
  match place.holder with
  | .layer source => sources source
  | .kept _ => false

/-- Whether a place is another one or within what is there. -/
def within (place outer : Site) : Bool :=
  place.holder == outer.holder && place.position.within outer.position

/-- Whether one of two places is within what is at the other. -/
def meets (p q : Site) : Bool :=
  p.holder == q.holder && p.position.meets q.position

/-- Whether two places are the same. -/
def same (p q : Site) : Bool :=
  p.holder == q.holder && p.position.same q.position

/-- Groups of places, each of which are those of one dictionary, with one more group: those that have a place in common
with it are the same dictionary. -/
def joined (places : List Site) (groups : List (List Site)) : List (List Site) :=
  let meeting (group : List Site) : Bool := group.any fun place => places.any place.same
  let more := (groups.filter meeting).flatten.filter fun place => !places.any place.same
  (places ++ more) :: groups.filter fun group => !meeting group

end Site

/-- What a program gives to be set. -/
inductive Given
  /-- A value that nothing else holds. -/
  | new (value : Value)
  /-- A value that the program keeps, so that it can be given again. -/
  | kept (number : Nat)
  deriving Repr

/-- The places at which the dictionary at a position of what is given stands because the program keeps it. -/
def Given.places (position : Position) : Given → List Site
  | .new _ => []
  | .kept number => [⟨.kept number, position⟩]

/-- Groups of places, with those of the dictionaries at some positions of what is given and put at some places. -/
def Given.joined (given : Given) (places : List Site) (positions : List Position) (groups : List (List Site)) :
    List (List Site) :=
  positions.foldl (fun groups position =>
    Site.joined (given.places position ++ places.map (·.below position)) groups) groups

end FileSieve.Config
