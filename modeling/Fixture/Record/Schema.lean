import Fixture.Convert.Shape
import Fixture.Record.Bindable
import Fixture.Text.Lowercase

/-! # Schemas

    A record is described by its fields.  A name belongs to the first field
    whose key is the lower-case form of the name, whether or not the field can
    be set, and binding sets that field and no other. -/

namespace Fixture

/-- Types that fields can have: `τ` names them and `δ` holds their data. -/
class FieldType (τ : Type) (δ : outParam Type) where
  /-- The datum of the type that a value is converted to. -/
  convert : τ → Value → Except Fault δ
  /-- The datum that a field of the type starts from. -/
  initial : τ → δ

instance : FieldType Shape Datum := ⟨Shape.convert, Shape.initial⟩

/-- A field of a record. -/
structure Field (τ : Type := Shape) where
  /-- The name of the field in the record; a reserved name has no field. -/
  label : Option String
  /-- The lower-case name that values are bound under. -/
  key : String
  /-- The field takes no values. -/
  skipped : Bool
  shape : τ
  /-- The name in messages about conversions, if not the one that was bound. -/
  reportedAs : Option String
deriving DecidableEq, Repr

/-- The fields of a kind of record, and its name. -/
structure Schema (τ : Type := Shape) where
  target : String
  fields : List (Field τ)
deriving DecidableEq, Repr

/-- The state of a record: one datum for each field of its schema. -/
abbrev Record (δ : Type := Datum) := List δ

variable {τ δ : Type}

namespace Field

/-- A field bound under its own name or the one it was given instead. -/
def declared (label : String) (shape : τ) (renamed : Option String)
    (skipped : Bool) : Field τ :=
  { label := some label
    key := lowercase (renamed.getD label)
    skipped := skipped
    shape := shape
    reportedAs := none }

end Field

namespace Schema

/-- The position of the field a name belongs to. -/
def position? (s : Schema τ) (name : String) : Option Nat :=
  s.fields.findIdx? fun f => f.key = lowercase name

/-- The field a name belongs to. -/
def field? (s : Schema τ) (name : String) : Option (Field τ) :=
  s.fields.find? fun f => f.key = lowercase name

/-- The keys of the fields that can be set. -/
def names (s : Schema τ) : List String :=
  (s.fields.filter fun f => !f.skipped).map Field.key

variable [FieldType τ δ]

/-- Every field at the datum its type starts from. -/
def start (s : Schema τ) : Record δ := s.fields.map fun f => FieldType.initial f.shape

/-- What binding a value to a name writes: the position of the field, and the
    datum that the value is converted to. -/
def write (s : Schema τ) (name : String) (v : Value) : Except Fault (Nat × δ) :=
  match s.position? name, s.field? name with
  | some i, some f =>
      if f.skipped then .error (.fieldNotSettable name s.target)
      else
        match FieldType.convert f.shape v with
        | .ok d => .ok (i, d)
        | .error e => .error (e.inField (f.reportedAs.getD name) s.target)
  | _, _ => .error (.fieldLookup name s.target)

/-- Converts a value for the field of a name and puts it there. -/
def set (s : Schema τ) (name : String) (v : Value) : Edit Fault (Record δ) Unit := do
  let (i, d) ← s.write name v
  modify fun record => record.set i d

/-- Records of the schema as something tables can fill, from the given record
    on. -/
def bindableFrom (s : Schema τ) (start : Record δ) : Bindable (Record δ) :=
  { targetName := s.target
    fieldNames := s.names
    start := start
    set := s.set }

/-- Records of the schema as something tables can fill. -/
def bindable (s : Schema τ) : Bindable (Record δ) := s.bindableFrom s.start

end Schema

end Fixture
