import Fixture.Text.Identifier.Table

/-! # Identifiers

    Which characters an identifier is made of. -/

namespace Fixture.Text.Identifier

def isWithin (ranges : List (Nat × Nat)) (c : Char) : Bool :=
  ranges.any fun (first, last) => first ≤ c.toNat && c.toNat ≤ last

/-- A character that an identifier begins with. -/
def isStart (c : Char) : Bool := c = '_' || isWithin starting c

/-- A character inside an identifier. -/
def isInside (c : Char) : Bool := isStart c || isWithin following c

end Fixture.Text.Identifier
