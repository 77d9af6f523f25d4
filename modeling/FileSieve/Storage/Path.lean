import FileSieve.Value.Misuse

/-!
# Paths

A path is written with slashes between its parts. A part of one point stands for the directory itself, one of two
points for the directory around it; both are resolved by the text alone. What does not begin with a slash begins at
the working directory, which is the home of the user as well.
-/

namespace FileSieve

/-- Where a path leads. -/
inductive Path
  /-- To a place in the working directory, by its parts. -/
  | inside (parts : List Text)
  /-- To a place elsewhere, by its absolute form. -/
  | elsewhere (shown : Text)
  deriving DecidableEq, Repr

namespace Path

/-- The parts of a text that name something. -/
def parts (t : Text) : List Text :=
  (Text.splitAtPoint '/' t).filter fun part => !part.isEmpty && part != ("." : Text)

/-- Resolves the parts of two points, behind the parts `before`, which are in reverse order. The result says
how many directories it leads out of the first one, and where from there. -/
def resolve : (before : List Text) → List Text → Nat × List Text
  | before, [] => (0, before.reverse)
  | before, part :: rest =>
    if part = (".." : Text) then
      match before with
      | [] =>
        let (out, parts) := resolve [] rest
        (out + 1, parts)
      | _ :: before => resolve before rest
    else resolve (part :: before) rest

/-- An absolute path, which cannot lead out of the topmost directory. -/
def absolute (parts : List Text) : Path :=
  .elsewhere (('/' : CodePoint) :: Text.join "/" (resolve [] parts).2)

/-- The path of a text. -/
def ofText (t : Text) : Path :=
  if t.head? = some ('/' : CodePoint) then absolute (parts t)
  else match resolve [] (parts t) with
    | (0, parts) => .inside parts
    | _ => .elsewhere t

/-- The path of a text as the name of a file that is to be opened. What points lead out of is not looked at. -/
def named (t : Text) : Except Misuse Path :=
  let name := Text.join "/" (resolve [] (parts t)).2
  match Utf8.nameFault? name with
  | some fault => .error (.unnameable fault)
  | none => if name.any fun c => c.val = 0 then .error (.nulInPath true) else .ok (ofText t)

/-- Whether a text begins with the home of a user. -/
def beginsAtHome (t : Text) : Bool :=
  t.head?.any (· == ('~' : CodePoint))

/-- The path of a text that may begin with the home of the user. -/
def expand (t : Text) : Except Misuse Path :=
  match parts t with
  | first :: rest =>
    if !beginsAtHome t || !beginsAtHome first then .ok (ofText t)
    else if first = ("~" : Text) then .ok (ofText (Text.join "/" rest))
    else .error .noHome
  | [] => .ok (ofText t)

end Path

end FileSieve
