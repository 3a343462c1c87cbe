import Fixture.Convert.Array
import Fixture.Convert.Scalar

/-! # Types of fields

    The types a value can be converted to, closed under options and lists, and
    the data of those types. -/

namespace Fixture

/-- A type of field. -/
inductive Shape where
  | bool
  | int (t : IntType)
  | single
  | double
  | text
  | complex
  | value
  | document
  | optional (inner : Shape)
  | list (item : Shape)
deriving DecidableEq, Repr

/-- A datum of some type. -/
inductive Datum where
  | bool (b : Bool)
  | int (n : Int)
  | single (x : Binary32)
  | double (x : Binary64)
  | text (s : String)
  | complex (z : Complex)
  | value (v : Value)
  | document (j : Json)
  | optional (d : Option Datum)
  | list (ds : List Datum)
deriving BEq

instance : Inhabited Datum := ⟨.optional none⟩

namespace Shape

/-- The full name of a type, as messages about lists give it. -/
def typeName : Shape → String
  | bool => "bool"
  | int t => t.name
  | single => "f32"
  | double => "f64"
  | text => "alloc::string::String"
  | complex => "tagbind::convert::Complex"
  | value => "tagbind::value::Value"
  | document => "serde_json::value::Value"
  | optional inner => "core::option::Option<" ++ inner.typeName ++ ">"
  | list item => "alloc::vec::Vec<" ++ item.typeName ++ ">"

/-- Converts a value to a datum of the type. -/
def convert : Shape → Value → Except Fault Datum
  | bool, v => (Convert.bool v).map .bool
  | int t, v => (Convert.int t v).map .int
  | single, v => (Convert.single v).map .single
  | double, v => (Convert.double v).map .double
  | text, v => .ok (.text v.text)
  | complex, v => (Convert.complex v).map .complex
  | value, v => .ok (.value v)
  | document, v => .ok (.document v.toJson)
  | optional inner, v => (Convert.optional inner.convert v).map .optional
  | list item, v => (Convert.list (list item).typeName item.convert v).map .list

/-- The datum that a field of the type starts from. -/
def initial : Shape → Datum
  | bool => .bool false
  | int _ => .int 0
  | single => .single (Binary.ofInt 0)
  | double => .double (Binary.ofInt 0)
  | text => .text ""
  | complex => .complex ⟨Binary.ofInt 0, Binary.ofInt 0⟩
  | value => .value .null
  | document => .document .null
  | optional _ => .optional none
  | list _ => .list []

end Shape

end Fixture
