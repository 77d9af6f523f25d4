import FileSieve.Config.Failure
import FileSieve.Document.Meaning

/-!
# Configuration files

A configuration file holds one document, in UTF-8. Its path may begin with the home of the user. What a document means
is a matter of the loader.
-/

namespace FileSieve.Config

/-- The path of a configuration file. -/
def filePath : Value → Except Misuse Path
  | .text t => if t.any fun c => c.val = 0 then .error (.nulInPath false) else Path.expand t
  | value => .error (.notPath value.kind)

/-- What the document in the octets of a file means. -/
def fileMeaning (loader : Document.Loader) (file : Text) (octets : Octets) : Except Failure Document.Meaning :=
  match Utf8.decodeStream octets with
  | .error fault => .error (.misuse (.undecodable fault))
  | .ok t =>
    match loader t.withLineFeeds with
    | .error .malformed => .error (.malformed file)
    | .error (.misuse m) => .error (.misuse m)
    | .ok meaning => .ok meaning

/-- What is in a file, which is a dictionary, with the absolute form of its path. -/
def readFile (loader : Document.Loader) (storage : Storage) (file : Value) :
    Except Failure (Text × Document.Meaning) := do
  let path ← (filePath file).mapError .misuse
  let shown := file.plain.toOption.getD []
  match storage.read path with
  | .error (.notFound _) | .error (.notDirectory _) => throw (.notFound shown)
  | .error fault => throw (.unopened shown fault)
  | .ok octets =>
    let meaning ← fileMeaning loader shown octets
    if meaning.value.kind = .dict then return (storage.shown path, meaning) else throw (.notDict shown)

end FileSieve.Config
