/-! # Faults

    Everything that can be wrong with a table, a cell or an environment, and
    what is said about it. -/

namespace Fixture

/-- Why configuration could not be gathered. -/
inductive GatheringFault where
  /-- A file is no well-formed document. -/
  | malformed (file : String)
  /-- The top of a file is something other than a mapping. -/
  | notMapping (file found : String)
  /-- A file holds bytes that are no text. -/
  | notText (file : String)
  /-- A directory stands where a file was expected. -/
  | directory (file : String)
  /-- The path of a file, or a name in it, is too long. -/
  | nameTooLong (file : String)
  /-- The system does not let a file be read, and says why. -/
  | unreadable (file why : String)
  /-- A variable holds something that is no text; `expected` says what its
      setting takes. -/
  | notString (key found expected : String)
  /-- The text of a variable is cut inside a character. -/
  | cutCharacter
  /-- Two layers are at fault. -/
  | both (lower upper : GatheringFault)
deriving DecidableEq, Repr

/-- What is said about a fault.  Nothing more is said once a file is known to be
    malformed. -/
def GatheringFault.message : GatheringFault → String
  | .malformed file => "failed to parse " ++ file
  | .notMapping file found =>
      "invalid type: found " ++ found ++ ", expected map in " ++ file ++ " Saphyr YAML"
  | .notText file =>
      "failed to read " ++ file ++ ": stream did not contain valid UTF-8 in "
        ++ file ++ " Saphyr YAML"
  | .directory file =>
      "failed to read " ++ file ++ ": Is a directory (os error 21) in "
        ++ file ++ " Saphyr YAML"
  | .nameTooLong file =>
      "failed to read " ++ file ++ ": File name too long (os error 36) in "
        ++ file ++ " Saphyr YAML"
  | .unreadable file why =>
      "failed to read " ++ file ++ ": " ++ why ++ " in " ++ file ++ " Saphyr YAML"
  | .cutCharacter => "a text is cut inside a character"
  | .notString key found expected =>
      "invalid type: found " ++ found ++ ", expected " ++ expected ++ " for key \""
        ++ key ++ "\" in `TAGBIND_` environment variable(s)"
  | .both (.malformed file) _ => "failed to parse " ++ file
  | .both lower upper => lower.message ++ "\n" ++ upper.message

/-- What can go wrong in binding a table or loading an environment. -/
inductive Fault where
  /-- A row has the wrong number of cells. -/
  | tableShape (row expected found : Nat)
  /-- No field has the name. -/
  | fieldLookup (field target : String)
  /-- The field takes no values. -/
  | fieldNotSettable (field target : String)
  /-- A text is no value of the target type. -/
  | parse (target raw why : String)
  /-- A value could not be bound to a field. -/
  | field (field target : String) (source : Fault)
  /-- There is no environment file at the path. -/
  | environmentFile (path : String)
  /-- Configuration could not be gathered. -/
  | gathering (reason : GatheringFault)
deriving DecidableEq, Repr

namespace Fault

def message : Fault → String
  | .tableShape row expected found =>
      "row " ++ toString row ++ " has " ++ toString found ++ " cells; expected "
        ++ toString expected
  | .fieldLookup name target => "field '" ++ name ++ "' not found in " ++ target
  | .fieldNotSettable name target =>
      "field '" ++ name ++ "' of " ++ target ++ " cannot be set"
  | .parse target raw why =>
      "cannot convert '" ++ raw ++ "' into " ++ target ++ ": " ++ why
  | .field name target source =>
      "failed to set field '" ++ name ++ "' of " ++ target ++ ": " ++ source.message
  | .environmentFile path =>
      "environment file error in '" ++ path ++ "': environment file not found"
  | .gathering reason =>
      "failed to gather environment configuration: " ++ reason.message

/-- The fault seen from the field and the target it was bound to. -/
def inField (f : Fault) (name target : String) : Fault := .field name target f

end Fault

end Fixture
