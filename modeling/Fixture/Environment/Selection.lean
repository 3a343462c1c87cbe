import Fixture.Environment.Variables
import Fixture.Fault

/-! # Selecting an environment

    An environment has a name, and a directory that holds its files: the base
    file, which has to be there, and a private overlay, which may be. -/

namespace Fixture

/-- Which environment is meant. -/
structure Selection where
  dir : String
  name : String
deriving DecidableEq, Repr

namespace Selection

/-- The environment that is meant unless something else is said. -/
def standard : Selection := ⟨"environments", "local"⟩

/-- What the names of variables that select an environment begin with. -/
def variablePrefix : String := "TAGBIND_"

/-- The path of a file in a directory; an absolute path stays what it is. -/
def join (dir file : String) : String :=
  if file.toList.head? = some '/' ∨ dir.toList = [] then file
  else if dir.toList.getLast? = some '/' then dir ++ file
  else dir ++ "/" ++ file

/-- The path of the file that has to be there. -/
def base (s : Selection) : String := join s.dir (s.name ++ ".yml")

/-- The path of the file that may be there. -/
def overlay (s : Selection) : String := join s.dir (s.name ++ "-private.yml")

/-- The text under a key, or another text if the key is not set. -/
def textOr (settings : Settings) (key shown expected other : String) :
    Except GatheringFault String :=
  match Assoc.get? settings key with
  | none => .ok other
  | some (.text s) => .ok s
  | some found => .error (.notString shown found.describe expected)

/-- The environment that variables select.  The directory is looked at first. -/
def ofVariables (vars : List (String × String)) : Except GatheringFault Selection := do
  let settings ←
    match Variables.settings? variablePrefix vars with
    | some settings => .ok settings
    | none => .error .cutCharacter
  let dir ← textOr settings "dir" "DIR" "path string" standard.dir
  let name ← textOr settings "name" "NAME" "a string" standard.name
  .ok ⟨dir, name⟩

end Selection

end Fixture
