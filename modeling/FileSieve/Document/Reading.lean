import FileSieve.Document.Meaning
import FileSieve.Document.Tree

/-!
# Reading documents

The value of a document is that of its one node, and no value if it has none. Control codes, surrogates and the two
last code points of the first plane may not occur in it, not even in comments.
-/

namespace FileSieve.Document

/-- A code point that may occur in a document. -/
def isAllowed (c : CodePoint) : Bool :=
  c.val == 0x09 || c.val == 0x0A || c.val == 0x0D || (0x20 ≤ c.val && c.val ≤ 0x7E) || c.val == 0x85 ||
    (0xA0 ≤ c.val && c.val ≤ 0xD7FF) || (0xE000 ≤ c.val && c.val ≤ 0xFFFD) || 0x10000 ≤ c.val

/-- What a document means. -/
def read (t : Text) : Except Fault Meaning :=
  if !t.all isAllowed then .error .malformed
  else match tree t with
    | .error e => .error e
    | .ok none => .ok { value := .none }
    | .ok (some node) => (meaning 0 node).mapError DeepFault.fault

end FileSieve.Document
