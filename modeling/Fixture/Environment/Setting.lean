import Fixture.Json.Basic
import Fixture.Text.Quoted

/-! # Settings

    What configuration is made of.  A setting is a tree like a JSON document, in
    which whole numbers still know whether they were written with a sign.
    Layers of settings are merged: mappings key by key, everything else is
    replaced by the upper layer. -/

namespace Fixture

/-- A piece of configuration. -/
inductive Setting where
  | null
  | bool (b : Bool)
  | unsigned (n : UInt64)
  | signed (n : Int64)
  | float (x : Binary64)
  | text (s : String)
  | sequence (items : List Setting)
  | mapping (entries : List (String × Setting))
deriving Inhabited, BEq

/-- Settings under keys, in the order of the keys. -/
abbrev Settings := Assoc Setting

namespace Setting

/-- The setting as messages show it. -/
def describe : Setting → String
  | .null => "unit"
  | .bool b => "bool " ++ (if b then "true" else "false")
  | .unsigned n => "unsigned int `" ++ toString n.toNat ++ "`"
  | .signed n => "signed int `" ++ toString n.toInt ++ "`"
  | .float x => "float `" ++ String.ofList (Style.plain.text x) ++ "`"
  | .text s => "string " ++ String.ofList (Text.Quoted.quote s.toList)
  | .sequence _ => "sequence"
  | .mapping _ => "map"

/-! ## Merging -/

mutual

/-- The setting that two layers come to: mappings are merged, and anything else
    is taken from the upper layer. -/
def merge (lower : Setting) : Setting → Setting
  | .mapping entries =>
      match lower with
      | .mapping old => .mapping (mergeEntries old entries)
      | _ => .mapping entries
  | upper => upper

/-- Entries of two layers; a key of both has the merged setting. -/
def mergeEntries (lower : List (String × Setting)) :
    List (String × Setting) → List (String × Setting)
  | [] => lower
  | (key, upper) :: entries =>
      let value := match Assoc.get? lower key with
        | some old => merge old upper
        | none => upper
      mergeEntries (Assoc.insert key value lower) entries

end

/-! ## Documents -/

/-- Every unsigned number of 64 bits is a number of documents. -/
theorem unsigned_inRange (n : UInt64) :
    IntType.i64.least ≤ (n.toNat : Int) ∧ (n.toNat : Int) ≤ IntType.u64.greatest := by
  have h := n.toNat_lt
  rw [IntType.least_i64, IntType.greatest_u64]
  omega

/-- Every signed number of 64 bits is a number of documents. -/
theorem signed_inRange (n : Int64) :
    IntType.i64.least ≤ n.toInt ∧ n.toInt ≤ IntType.u64.greatest := by
  have hl := n.le_toInt
  have hg := n.toInt_lt
  rw [IntType.least_i64, IntType.greatest_u64]
  omega

mutual

/-- The setting as a document; numbers that no document has become null. -/
def toJson : Setting → Json
  | .null => .null
  | .bool b => .bool b
  | .unsigned n => .number (.integer n.toNat (unsigned_inRange n))
  | .signed n => .number (.integer n.toInt (signed_inRange n))
  | .float x =>
      match JsonNumber.ofReal? x with
      | some n => .number n
      | none => .null
  | .text s => .string s
  | .sequence items => .array (itemsToJson items)
  | .mapping entries => .object (entriesToJson entries)

/-- Items as items of a document. -/
def itemsToJson : List Setting → List Json
  | [] => []
  | item :: items => item.toJson :: itemsToJson items

/-- Entries as members of a document. -/
def entriesToJson : List (String × Setting) → List (String × Json)
  | [] => []
  | (key, value) :: entries => (key, value.toJson) :: entriesToJson entries

end

end Setting

end Fixture
