import Fixture.Text.Lowercase.Table

/-! # Lower case

    The full Unicode lower-case mapping of a text.  Each character is mapped by
    itself, with two exceptions: a dotted capital I becomes two characters, and
    a capital sigma takes its final form where a word ends. -/

namespace Fixture.Text

namespace Lowercase

def inRanges (ranges : List (Nat × Nat)) (c : Char) : Bool :=
  ranges.any fun (first, last) => first ≤ c.toNat && c.toNat ≤ last

/-- The code point belongs to the run. -/
def Run.has (r : Run) (n : Nat) : Bool :=
  r.first ≤ n && n ≤ r.last && (n - r.first) % r.stride = 0

/-- The lower-case form of a character, taken by itself. -/
def ofChar (c : Char) : List Char :=
  if c = 'İ' then ['i', '\u0307']
  else
    match runs.find? (·.has c.toNat) with
    | some r => [Char.ofNat (r.image + (c.toNat - r.first))]
    | none => [c]

/-- The first character that is not case-ignorable is there and is cased. -/
def startsCased (s : List Char) : Bool :=
  match s.dropWhile (inRanges ignorable) with
  | [] => false
  | c :: _ => inRanges cased c

/-- A sigma between `before` (read backwards) and `after` ends a word. -/
def isFinal (before after : List Char) : Bool :=
  startsCased before && !startsCased after

/-- Maps `s`, which stands behind `before` (read backwards). -/
def behind (before : List Char) : List Char → List Char
  | [] => []
  | c :: s =>
      (if c = 'Σ' then [if isFinal before s then 'ς' else 'σ'] else ofChar c)
        ++ behind (c :: before) s

end Lowercase

/-- The lower-case form of a text. -/
def lowercase (s : List Char) : List Char := Lowercase.behind [] s

end Fixture.Text

namespace Fixture

/-- The lower-case form of a string. -/
def lowercase (s : String) : String := String.ofList (Text.lowercase s.toList)

end Fixture
