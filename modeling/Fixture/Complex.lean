import Fixture.Number.Style
import Fixture.Number.Literal
import Fixture.Text.Search

/-! # Complex numbers

    Two doubles, written `(1+2i)`.  Read are a real number, an imaginary one, or
    both with a sign between them, in parentheses or not; an imaginary part that
    is only a sign means one. -/

namespace Fixture

/-- A complex number. -/
structure Complex where
  re : Binary64
  im : Binary64
deriving DecidableEq

namespace Complex

/-- Both parts between parentheses, the imaginary one with its sign. -/
def render (z : Complex) : List Char :=
  '(' :: Style.plain.text z.re ++ Style.plain.signedText z.im ++ ['i', ')']

def text (z : Complex) : String := String.ofList z.render

/-- Positive zero. -/
def zeroPart : Binary64 := Binary.ofScaled false 0 Format.binary64.least

/-- Positive or negative one. -/
def unitPart (negative : Bool) : Binary64 := Binary.ofQuotient negative 1 1

/-- An imaginary part without its `i`. -/
def imaginary? (s : List Char) : Option Binary64 :=
  if s = [] ∨ s = ['+'] then some (unitPart false)
  else if s = ['-'] then some (unitPart true)
  else Literal.read? s

/-- Splits a text at its last sign, not counting a sign at the very start nor
    one behind the letter of an exponent; `previous` is the character in front
    of the text, if any. -/
def splitParts? : Option Char → List Char → Option (List Char × List Char)
  | _, [] => none
  | previous, c :: s =>
      match splitParts? (some c) s with
      | some (re, im) => some (c :: re, im)
      | none =>
          if (c = '+' ∨ c = '-') ∧ previous ≠ none ∧ previous ≠ some 'e'
              ∧ previous ≠ some 'E' then some ([], c :: s)
          else none

/-- A text without one pair of parentheses around it. -/
def unwrap (s : List Char) : List Char :=
  match Text.dropFront? ['('] s with
  | none => s
  | some inside => (Text.dropBack? [')'] inside).getD s

/-- The complex number a text denotes. -/
def read? (s : List Char) : Option Complex :=
  let s := unwrap s
  match Text.dropBack? ['i'] s with
  | none => (Literal.read? s).map fun re => ⟨re, zeroPart⟩
  | some body =>
      match splitParts? none body with
      | some (re, im) => do
          let re ← Literal.read? re
          let im ← imaginary? im
          some ⟨re, im⟩
      | none => (imaginary? body).map fun im => ⟨zeroPart, im⟩

end Complex

end Fixture
