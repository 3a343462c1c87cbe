import Fixture.Environment.Document
import Fixture.Environment.Files
import Fixture.Environment.Selection

/-! # Environments

    An environment is a document with a name.  It is loaded from a base file and
    an overlay above it: mappings of both are merged, and everything else in the
    overlay replaces what stands in the base. -/

namespace Fixture

/-- A document with a name. -/
structure Environment where
  name : String
  document : Json

namespace Environment

/-- The settings of a file; a blank text has none. -/
def layer (file text : String) : Except GatheringFault Settings :=
  if text.toList.all Text.isBlank then .ok []
  else
    match Setting.ofYaml? text with
    | none => .error (.malformed file)
    | some (.mapping entries) => .ok entries
    | some found => .error (.notMapping file found.describe)

/-- The settings of what stands at the path of a file. -/
def layerAt (file : String) : FileTree → Except GatheringFault Settings
  | .directory _ => .error (.directory file)
  | .file bytes =>
      match String.fromUTF8? bytes with
      | some text => layer file text
      | none => .error (.notText file)

/-- The environment with this name and these settings. -/
def ofSettings (name : String) (settings : Settings) : Environment :=
  ⟨name, (Setting.mapping settings).toJson⟩

/-- The environment that a YAML text describes. -/
def ofYaml (name text : String) : Except Fault Environment :=
  match layer (name ++ ".yml") text with
  | .ok settings => .ok (ofSettings name settings)
  | .error reason => .error (.gathering reason)

/-- The settings of both layers.  What is wrong with both is said of both. -/
def combine (lower upper : Except GatheringFault Settings) :
    Except GatheringFault Settings :=
  match lower, upper with
  | .ok lower, .ok upper => .ok (Setting.mergeEntries lower upper)
  | .ok _, .error reason => .error reason
  | .error reason, .ok _ => .error reason
  | .error reason, .error more => .error (.both reason more)

/-- Why a file gives no settings if nothing is read at its path. -/
def unread (file : String) : ReadFault → GatheringFault
  | .missing => .unreadable file "No such file or directory (os error 2)"
  | .directory => .directory file
  | .nameTooLong => .nameTooLong file
  | .refused why => .unreadable file why

/-- The settings of what was read at the path of a file. -/
def layerOf (file : String) : Except ReadFault ByteArray → Except GatheringFault Settings
  | .ok bytes => layerAt file (.file bytes)
  | .error fault => .error (unread file fault)

/-- The settings of a file that may be missing; only then are there none. -/
def overlayOf (file : String) : Except ReadFault ByteArray → Except GatheringFault Settings
  | .error .missing => .ok []
  | found => layerOf file found

/-- Loads the environment that is meant.  Its base has to be a file. -/
def loadFrom (files : FileSystem) (s : Selection) : Except Fault Environment :=
  if files.isFile s.base then
    match combine (layerOf s.base (files.read s.base))
        (overlayOf s.overlay (files.read s.overlay)) with
    | .ok settings => .ok (ofSettings s.name settings)
    | .error reason => .error (.gathering reason)
  else .error (.environmentFile s.base)

/-- Loads the environment that is meant from a tree of files. -/
def load (tree : FileTree) (s : Selection) : Except Fault Environment :=
  loadFrom tree.system s

end Environment

end Fixture
