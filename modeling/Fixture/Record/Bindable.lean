import Fixture.Edit
import Fixture.Fault
import Fixture.Value

/-! # Bindable records

    What a table needs to know of a record in order to fill it. -/

namespace Fixture

/-- A kind of record that is filled field by field.  `σ` is its state. -/
structure Bindable (σ : Type) where
  /-- The name of the kind, for messages. -/
  targetName : String
  /-- The names under which values can be bound, in the order of the fields. -/
  fieldNames : List String
  /-- The state before anything is bound. -/
  start : σ
  /-- Binds a value to the field of a name, in place. -/
  set : String → Value → Edit Fault σ Unit

namespace Bindable

/-- The state after a value was bound to the field of a name. -/
def bind {σ : Type} (b : Bindable σ) (state : σ) (name : String) (v : Value) :
    Except Fault σ :=
  (b.set name v).result state

end Bindable

end Fixture
