import FileSieve.Storage.Path

/-!
# Files

The files of the working directory. A name leads to a file, and who has opened a file keeps it even if its name leads
elsewhere later: so a file has a number of its own, and renaming and removing concern names only.
-/

namespace FileSieve

/-- What a name leads to. -/
inductive Place
  /-- A directory. -/
  | directory
  /-- The file of a number. -/
  | file (number : Nat)
  deriving DecidableEq, Repr

/-- The files of the working directory. -/
structure Storage where
  /-- The absolute path of the working directory. -/
  root : Text
  /-- What names lead to. -/
  places : List (List Text × Place) := []
  /-- The octets of the files, by their numbers. -/
  contents : List Octets := []
  deriving Repr

namespace Storage

/-- Why a file cannot be opened; the path is in its absolute form. -/
inductive Fault
  /-- There is no such file or directory. -/
  | notFound (path : Text)
  /-- A directory is expected where a file is. -/
  | notDirectory (path : Text)
  /-- It is a directory. -/
  | isDirectory (path : Text)
  deriving DecidableEq, Repr

/-- The wording of a fault. -/
def Fault.message : Fault → Text
  | .notFound path => "[Errno 2] No such file or directory: " ++ path.quoted
  | .notDirectory path => "[Errno 20] Not a directory: " ++ path.quoted
  | .isDirectory path => "[Errno 21] Is a directory: " ++ path.quoted

/-- A path in its absolute form. -/
def shown (s : Storage) : Path → Text
  | .inside parts => Text.join "/" (s.root :: parts)
  | .elsewhere path => path

/-- What a path leads to. -/
def place? (s : Storage) : Path → Option Place
  | .inside [] => some .directory
  | .inside parts => s.places.lookup parts
  | .elsewhere _ => none

/-- The octets of a file by its number. -/
def octets (s : Storage) (number : Nat) : Octets :=
  s.contents.getD number []

/-- A new file under a name. -/
def create (s : Storage) (parts : List Text) (octets : Octets) : Nat × Storage :=
  let number := s.contents.length
  (number, { s with places := (parts, .file number) :: s.places, contents := s.contents ++ [octets] })

/-- A new directory, and those around it that are missing. -/
def createDirectory (s : Storage) (parts : List Text) : Storage :=
  (List.range parts.length).foldl (fun s n =>
    let parts := parts.take (n + 1)
    if (s.places.lookup parts).isSome then s else { s with places := (parts, .directory) :: s.places }) s

/-- The first directory on the way to a file that is missing or none; `before` is the way so far. -/
def obstacle? (s : Storage) (shown : Text) : (before rest : List Text) → Option Fault
  | _, [] | _, [_] => none
  | before, part :: rest =>
    match s.places.lookup (before ++ [part]) with
    | some .directory => obstacle? s shown (before ++ [part]) rest
    | some (.file _) => some (.notDirectory shown)
    | none => some (.notFound shown)

/-- The number of the file of a path, which is made if it is missing. -/
def openToAppend (s : Storage) (path : Path) : Except Fault (Nat × Storage) :=
  let shown := s.shown path
  match path with
  | .elsewhere _ => .error (.notFound shown)
  | .inside parts =>
    match obstacle? s shown [] parts, s.place? path with
    | some fault, _ => .error fault
    | none, some .directory => .error (.isDirectory shown)
    | none, some (.file number) => .ok (number, s)
    | none, none => .ok (s.create parts [])

/-- The files with octets behind those of one of them. -/
def append (s : Storage) (number : Nat) (octets : Octets) : Storage :=
  { s with contents := s.contents.modify number (· ++ octets) }

/-- The files without a name. -/
def forget (s : Storage) (parts : List Text) : Storage :=
  { s with places := s.places.filter fun (name, _) => name != parts }

/-- The files with a name in the place of another one, if there is that one. -/
def rename (s : Storage) (source target : List Text) : Storage :=
  match s.places.lookup source with
  | none => s
  | some place =>
    let s := (s.forget source).forget target
    { s with places := (target, place) :: s.places }

/-- The octets of the file of a path. -/
def read (s : Storage) (path : Path) : Except Fault Octets :=
  match s.place? path with
  | none => .error (.notFound (s.shown path))
  | some .directory => .error (.isDirectory (s.shown path))
  | some (.file number) => .ok (s.octets number)

end Storage

end FileSieve
