import Fixture.Text.Search

/-! # Files

    A tree of directories and files, and the walk of a path through it.  Whoever
    reads files need not know more than at which paths there are some, and what
    reading them gives: a file may be there and not let itself be read. -/

namespace Fixture

/-- What stands at a path. -/
inductive FileTree where
  | file (bytes : ByteArray)
  | directory (entries : List (String × FileTree))

namespace FileTree

/-- Nothing but an empty directory. -/
def empty : FileTree := .directory []

/-- Puts a tree at a path, with the directories on the way to it. -/
def put (content : FileTree) : List String → FileTree → FileTree
  | [], _ => content
  | segment :: segments, .directory entries =>
      let old := (entries.lookup segment).getD empty
      .directory ((segment, put content segments old)
        :: entries.filter fun e => e.1 ≠ segment)
  | segment :: segments, .file _ => .directory [(segment, put content segments empty)]

/-- The segments of a path, without those that lead nowhere. -/
def segments (path : String) : List String :=
  ((Text.splitOn '/' path.toList).map String.ofList).filter fun s => s ≠ "" ∧ s ≠ "."

/-- Walks on from a tree inside the directories `outer`, the nearest first. -/
def walk? : List FileTree → FileTree → List String → Option FileTree
  | _, tree, [] => some tree
  | outer, .directory entries, segment :: segments =>
      if segment = ".." then
        match outer with
        | parent :: outer => walk? outer parent segments
        | [] => none
      else
        match entries.lookup segment with
        | some tree => walk? (.directory entries :: outer) tree segments
        | none => none
  | _, .file _, _ :: _ => none

/-- The path has more than 4095 bytes, or a name in it more than 255. -/
def isTooLong (path : String) : Bool :=
  4096 ≤ path.utf8ByteSize || (segments path).any fun s => 255 < s.utf8ByteSize

/-- What stands at a path.  Nothing is known of what lies outside the tree. -/
def get? (tree : FileTree) (path : String) : Option FileTree :=
  if path.toList.head? = some '/' ∨ isTooLong path then none
  else walk? [] tree (segments path)

end FileTree

/-- Why nothing is read at a path. -/
inductive ReadFault where
  /-- Nothing is found there. -/
  | missing
  /-- A directory is found there. -/
  | directory
  /-- The path, or a name in it, is too long. -/
  | nameTooLong
  /-- The system refuses, in its own words. -/
  | refused (why : String)
deriving DecidableEq, Repr

/-- Files as they are seen from outside. -/
structure FileSystem where
  /-- There is a regular file at the path. -/
  isFile : String → Bool
  /-- What reading the path gives. -/
  read : String → Except ReadFault ByteArray

/-- A tree seen from outside. -/
def FileTree.system (tree : FileTree) : FileSystem where
  isFile path :=
    match tree.get? path with
    | some (.file _) => true
    | _ => false
  read path :=
    if isTooLong path then .error .nameTooLong
    else
      match tree.get? path with
      | some (.file bytes) => .ok bytes
      | some (.directory _) => .error .directory
      | none => .error .missing

end Fixture
