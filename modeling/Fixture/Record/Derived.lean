import Fixture.Derive.Implementation
import Fixture.Record.Schema

/-! # Derived records

    What the implementation that is derived for a structure does with a name and
    a value.  The name is compared with the key of one field after another, in
    the order of the definition.  The first field that has it takes the value,
    or refuses every value, and no field behind it is looked at.

    The state is a record with one datum for each field.  Which type the tokens
    of a field stand for is left open: parameters stand for whatever types they
    are given. -/

namespace Fixture.Derive

variable {τ δ : Type} [FieldType τ δ]

namespace Arm

/-- The datum that a value is converted to for a field of a type.  A fault is
    reported under the name that was bound. -/
def datum (target name : String) (v : Value) (t : τ) : Except Fixture.Fault δ :=
  (FieldType.convert t v).mapError fun e => e.inField name target

/-- Converts a value and puts it into the field at a position. -/
def assign (target name : String) (v : Value) (position : Nat) (t : τ) :
    Edit Fixture.Fault (Record δ) Unit := do
  let d ← datum target name v t
  modify fun record => record.set position d

/-- What is done for a field whose name was bound: the field at a position. -/
def take (type : List Token → τ) (target name : String) (v : Value) (position : Nat)
    (a : Arm) : Edit Fixture.Fault (Record δ) Unit :=
  if a.skipped then throw (.fieldNotSettable name target)
  else assign target name v position (type a.type)

/-- Goes through fields, the first of which is at a position, up to the one with
    the key. -/
def lookUp (type : List Token → τ) (target name key : String) (v : Value) :
    Nat → List Arm → Edit Fixture.Fault (Record δ) Unit
  | _, [] => throw (.fieldLookup name target)
  | position, a :: arms =>
      if key = a.key then take type target name v position a
      else lookUp type target name key v (position + 1) arms

end Arm

namespace Implementation

/-- Binds a value to the field of a name, in place. -/
def set (i : Implementation) (type : List Token → τ) (name : String) (v : Value) :
    Edit Fixture.Fault (Record δ) Unit :=
  Arm.lookUp type i.target name (lowercase name) v 0 i.arms

/-- Every field at the datum its type starts from. -/
def start (i : Implementation) (type : List Token → τ) : Record δ :=
  i.arms.map fun a => FieldType.initial (type a.type)

/-- Records of the structure as something tables can fill. -/
def bindable (i : Implementation) (type : List Token → τ) : Bindable (Record δ) :=
  { targetName := i.target
    fieldNames := i.names
    start := i.start type
    set := i.set type }

/-! ## Schemas -/

/-- The schema of the structure. -/
def schema (i : Implementation) (type : List Token → τ) : Schema τ :=
  { target := i.target
    fields := i.arms.map fun a =>
      { label := some (String.ofList (plainName a.field))
        key := a.key
        skipped := a.skipped
        shape := type a.type
        reportedAs := none } }

end Implementation

end Fixture.Derive
