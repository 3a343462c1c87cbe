import Fixture.Value
import Fixture.Text.Search

/-! # Dotted paths

    A path is a list of segments with dots between them.  A segment selects a
    member of an object by its key or an item of an array by its number; what
    cannot be reached reads as null. -/

namespace Fixture

namespace Json

/-- The node one segment below a node.  In an array a segment is read as an
    unsigned number, so a plus sign and leading zeros are allowed. -/
def child? (segment : List Char) : Json → Option Json
  | .object members => Assoc.get? members (String.ofList segment)
  | .array items =>
      match IntType.usize.readText segment with
      | .ok n => items[n.toNat]?
      | .error _ => none
  | _ => none

/-- The node reached by taking segments one after another. -/
def descend? (segments : List (List Char)) (root : Json) : Option Json :=
  segments.foldlM (fun node segment => node.child? segment) root

/-- The node at a dotted path; the empty path is the whole document. -/
def node? (path : String) (root : Json) : Option Json :=
  if path.toList = [] then some root
  else root.descend? (Text.splitOn '.' path.toList)

/-- The value at a dotted path. -/
def get (root : Json) (path : String) : Value :=
  match root.node? path with
  | some node => Value.ofJson node
  | none => .null

end Json

end Fixture
