import Fixture.Assoc
import Fixture.Number.Style
import Fixture.Number.Integer

/-! # JSON documents

    A document is a tree.  Whole numbers of 64 bits stay exact, every other
    number is a finite double; the members of an object are kept in the order
    of their keys, and a key occurs once. -/

namespace Fixture

/-- A number of a document. -/
inductive JsonNumber where
  | integer (n : Int) (inRange : IntType.i64.least ≤ n ∧ n ≤ IntType.u64.greatest)
  | real (x : Binary64) (finite : x.isFinite = true)
deriving DecidableEq

namespace JsonNumber

/-- A whole number, if 64 bits hold it. -/
def ofInt? (n : Int) : Option JsonNumber :=
  if h : IntType.i64.least ≤ n ∧ n ≤ IntType.u64.greatest then some (.integer n h) else none

/-- A double, if it is finite. -/
def ofReal? (x : Binary64) : Option JsonNumber :=
  if h : x.isFinite = true then some (.real x h) else none

/-- The nearest double. -/
def toBinary : JsonNumber → Binary64
  | .integer n _ => Binary.ofInt n
  | .real x _ => x

def text : JsonNumber → List Char
  | .integer n _ => (if n < 0 then ['-'] else []) ++ Nat.toDigits 10 n.natAbs
  | .real x _ => Style.json.text x

end JsonNumber

/-- A document. -/
inductive Json where
  | null
  | bool (b : Bool)
  | number (n : JsonNumber)
  | string (s : String)
  | array (items : List Json)
  | object (members : List (String × Json))
deriving Inhabited, BEq

/-- The members of an object, in the order of their keys. -/
abbrev Members := Assoc Json

namespace Json

/-- The escape of a character inside a string. -/
def escape (c : Char) : List Char :=
  match c with
  | '"' => ['\\', '"']
  | '\\' => ['\\', '\\']
  | '\x08' => ['\\', 'b']
  | '\x0c' => ['\\', 'f']
  | '\n' => ['\\', 'n']
  | '\r' => ['\\', 'r']
  | '\t' => ['\\', 't']
  | c =>
      if c.toNat < 0x20 then
        let ds := Nat.toDigits 16 c.toNat
        ['\\', 'u'] ++ List.replicate (4 - ds.length) '0' ++ ds
      else [c]

/-- A string between its quotes. -/
def quote (s : String) : List Char := '"' :: s.toList.flatMap escape ++ ['"']

mutual

/-- The compact text of a document. -/
def render : Json → List Char
  | .null => "null".toList
  | .bool b => (if b then "true" else "false").toList
  | .number n => n.text
  | .string s => quote s
  | .array items => '[' :: renderItems items ++ [']']
  | .object members => '{' :: renderMembers members ++ ['}']

/-- Items behind each other, with commas between them. -/
def renderItems : List Json → List Char
  | [] => []
  | [item] => render item
  | item :: items => render item ++ ',' :: renderItems items

/-- Members behind each other, with commas between them. -/
def renderMembers : List (String × Json) → List Char
  | [] => []
  | [(key, value)] => quote key ++ ':' :: render value
  | (key, value) :: members =>
      quote key ++ ':' :: render value ++ ',' :: renderMembers members

end

/-- The compact text of a document as a string. -/
def text (j : Json) : String := String.ofList j.render

end Json

end Fixture
