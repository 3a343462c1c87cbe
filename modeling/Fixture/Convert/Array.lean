import Fixture.Fault
import Fixture.Json.Reader
import Fixture.Value

/-! # Arrays

    A list is converted from an array, or from the text of one, item by item.
    The first item sets the family of the array, and an item of another family
    is a fault of its own rather than a failed conversion. -/

namespace Fixture

/-- The kinds of items an array may hold. -/
inductive Family where
  | bool
  | number
  | string
deriving DecidableEq, Repr

namespace Family

def name : Family → String
  | bool => "bool"
  | number => "number"
  | string => "string"

/-- The family of an item; null, arrays and objects have none. -/
def of? : Json → Option Family
  | .bool _ => some bool
  | .number _ => some number
  | .string _ => some string
  | .null | .array _ | .object _ => none

end Family

namespace Convert

/-- The items a list is made from. -/
def sourceItems (target : String) : Value → Except Fault (List Json)
  | .array items => .ok items
  | .string s =>
      match Json.readArray s.toList with
      | .ok items => .ok items
      | .error fault => .error (.parse target s fault.message)
  | v => .error (.parse target v.text ("expected an array, found " ++ v.kind))

/-- Converts the items from the one numbered `index` on. -/
def itemsFrom {α : Type} (target : String) (family : Family)
    (item : Value → Except Fault α) : Nat → List Json → Except Fault (List α)
  | _, [] => .ok []
  | index, j :: js =>
      if Family.of? j = some family then do
        let x ← item (Value.ofJson j)
        let xs ← itemsFrom target family item (index + 1) js
        .ok (x :: xs)
      else
        .error (.parse target j.text
          ("element " ++ toString index ++ " is not a " ++ family.name))

/-- Converts all items of an array. -/
def items {α : Type} (target : String) (item : Value → Except Fault α) :
    List Json → Except Fault (List α)
  | [] => .ok []
  | first :: rest =>
      match Family.of? first with
      | none => .error (.parse target first.text "unsupported array element type")
      | some family => itemsFrom target family item 0 (first :: rest)

/-- Converts a value into a list. -/
def list {α : Type} (target : String) (item : Value → Except Fault α) (v : Value) :
    Except Fault (List α) := do
  let source ← sourceItems target v
  items target item source

end Convert

end Fixture
