import Fixture.Tag.Scan
import Fixture.Text.Slice

/-! # Tags by their offsets

    A scan that keeps an offset into the text and takes every tag as two slices of
    it.  Each round looks for the next tag in what is left behind the offset, and
    goes on behind the tag.  A slice that cannot be taken is passed over without a
    word: the tag is missing, or nothing is left. -/

namespace Fixture

/-- A tag as it stands in a text. -/
structure TagSlice where
  token : List Char
  content : List Char
deriving DecidableEq, Repr

/-- Where a tag stands: the offsets of its opening, its content and its closing
    bracket. -/
structure Spot where
  start : Nat
  inside : Nat
  stop : Nat
deriving DecidableEq, Repr

namespace Spot

/-- The next tag in a text; nothing if there is no opening, or none that is
    closed. -/
def find? (k : TagKind) (rest : List Char) : Option Spot := do
  let start ← Text.find? k.opening rest
  let inside := start + Text.byteSize k.opening
  let tail ← Text.dropBytes? inside rest
  let length ← Text.find? [']'] tail
  some ⟨start, inside, inside + length⟩

/-- The tag at a spot that was found behind an offset. -/
def slice? (spot : Spot) (offset : Nat) (s : List Char) : Option TagSlice := do
  let token ← Text.slice? (offset + spot.start) (offset + spot.stop + 1) s
  let content ← Text.slice? (offset + spot.inside) (offset + spot.stop) s
  some ⟨token, content⟩

end Spot

namespace TagSlice

/-- What is left of a text behind an offset. -/
def rest (s : List Char) (offset : Nat) : List Char := (Text.dropBytes? offset s).getD []

/-- There is a tag only in front of the end. -/
theorem lt_byteSize_of_find? {k : TagKind} {s : List Char} {offset : Nat} {spot : Spot}
    (h : Spot.find? k (rest s offset) = some spot) : offset < Text.byteSize s := by
  rw [rest] at h
  cases hrest : Text.dropBytes? offset s with
  | none =>
      rw [hrest] at h
      cases k <;> cases h
  | some r =>
      obtain ⟨a, rfl, rfl⟩ := Text.dropBytes?_eq_some_iff.mp hrest
      cases r with
      | nil =>
          rw [hrest] at h
          cases k <;> cases h
      | cons c r =>
          have hpos := Text.byteSize_cons_pos c r
          rw [Text.byteSize_append]
          omega

/-- The tags of a kind from an offset on. -/
def scanFrom (k : TagKind) (s : List Char) (offset : Nat) : List TagSlice :=
  match _h : Spot.find? k (rest s offset) with
  | none => []
  | some spot => (spot.slice? offset s).toList ++ scanFrom k s (offset + spot.stop + 1)
termination_by Text.byteSize s - offset
decreasing_by
  have hlt := lt_byteSize_of_find? _h
  omega

end TagSlice

end Fixture
