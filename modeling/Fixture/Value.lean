import Fixture.Json.Basic

/-! # Values

    What a lookup or a resolved cell gives.  Numbers are doubles whether or not
    the document wrote them as integers; arrays and objects keep the document
    they came from. -/

namespace Fixture

/-- A loosely typed value. -/
inductive Value where
  | null
  | bool (b : Bool)
  | number (x : Binary64)
  | string (s : String)
  | array (items : List Json)
  | object (members : Members)
deriving Inhabited, BEq

namespace Value

def isNull : Value → Bool
  | .null => true
  | _ => false

/-- The text of a string value. -/
def asString? : Value → Option String
  | .string s => some s
  | _ => none

/-- The name of the kind of value, as messages give it. -/
def kind : Value → String
  | .null => "null"
  | .bool _ => "bool"
  | .number _ => "number"
  | .string _ => "string"
  | .array _ => "array"
  | .object _ => "object"

/-- The text that stands for a value inside a longer text. -/
def render : Value → List Char
  | .null => "<nil>".toList
  | .bool b => (if b then "true" else "false").toList
  | .number x => Style.display.text x
  | .string s => s.toList
  | .array items => (Json.array items).render
  | .object members => (Json.object members).render

/-- The text of a value as a string. -/
def text (v : Value) : String := String.ofList v.render

/-- The value of a node of a document. -/
def ofJson : Json → Value
  | .null => .null
  | .bool b => .bool b
  | .number n => .number n.toBinary
  | .string s => .string s
  | .array items => .array items
  | .object members => .object members

/-- Whole numbers below this bound become integers of a document. -/
def integerBound : Nat := 9000000000000000

/-- The integer that a number becomes in a document, if it becomes one. -/
def documentInteger? (x : Binary64) : Option JsonNumber := do
  let n ← x.toInt?
  if n.natAbs < integerBound then JsonNumber.ofInt? n else none

/-- A number in a document: an integer if it is whole and small enough, no
    number at all if it is not finite. -/
def numberToJson (x : Binary64) : Json :=
  match documentInteger? x with
  | some n => .number n
  | none =>
      match JsonNumber.ofReal? x with
      | some n => .number n
      | none => .null

/-- The value as a document. -/
def toJson : Value → Json
  | .null => .null
  | .bool b => .bool b
  | .number x => numberToJson x
  | .string s => .string s
  | .array items => .array items
  | .object members => .object members

end Value

end Fixture
