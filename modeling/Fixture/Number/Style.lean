import Fixture.Number.Shortest

/-! # Ways of writing a number down

    A style says which numbers are written out in full and how the others show
    their exponent.  The digits are always the shortest ones. -/

namespace Fixture

namespace Decimal

/-- The exponent in scientific form, `d.ddd · 10 ^ k`. -/
def magnitude (d : Decimal) : Int := (d.digits.length : Int) - 1 + d.exponent

/-- All digits in their places; a whole number has no point. -/
def positional (d : Decimal) : List Char :=
  let ds := d.digits
  if 0 ≤ d.exponent then ds ++ List.replicate d.exponent.toNat '0'
  else
    let places := (-d.exponent).toNat
    if places < ds.length then
      ds.take (ds.length - places) ++ '.' :: ds.drop (ds.length - places)
    else '0' :: '.' :: List.replicate (places - ds.length) '0' ++ ds

/-- The digits with a point after the first, unless there is only one. -/
def mantissa (d : Decimal) : List Char :=
  match d.digits with
  | [] => []
  | [c] => [c]
  | c :: cs => c :: '.' :: cs

end Decimal

/-- How finite numbers are written. -/
structure Style where
  /-- Scientific exponents written out in full. -/
  inFull : Int → Bool
  /-- Whole numbers written in full end in `.0`. -/
  point : Bool
  /-- Least number of digits of an exponent, whose sign is always shown. -/
  exponentDigits : Nat
  tie : Tie

namespace Style

/-- Never an exponent, never an idle point. -/
def plain : Style := ⟨fun _ => true, false, 1, .up⟩

/-- What a substituted number looks like: in full from `1e-4` to below `1e21`,
    and an exponent of at least two digits otherwise. -/
def display : Style := ⟨fun k => -4 ≤ k && k < 21, false, 2, .up⟩

/-- What a JSON text holds: in full from `1e-5` to below `1e16`, always with a
    point. -/
def json : Style := ⟨fun k => -5 ≤ k && k ≤ 15, true, 1, .even⟩

/-- An exponent with its sign and at least `width` digits. -/
def exponentText (width : Nat) (k : Int) : List Char :=
  let ds := Nat.toDigits 10 k.natAbs
  (if k < 0 then '-' else '+') :: List.replicate (width - ds.length) '0' ++ ds

/-- The text of a decimal. -/
def decimalText (s : Style) (d : Decimal) : List Char :=
  if s.inFull d.magnitude then
    if s.point && 0 ≤ d.exponent then d.positional ++ ['.', '0'] else d.positional
  else d.mantissa ++ 'e' :: exponentText s.exponentDigits d.magnitude

/-- The text of a number without its sign. -/
def unsignedText (s : Style) {f : Format} : Binary f → List Char
  | .nan => "NaN".toList
  | .infinite _ => "inf".toList
  | .finite _ c e _ =>
      if c = 0 then s.decimalText ⟨0, 0⟩ else s.decimalText (shortest f s.tie c e)

/-- The text of a number, with a sign if it is negative. -/
def text (s : Style) {f : Format} (x : Binary f) : List Char :=
  if x.isNegative then '-' :: s.unsignedText x else s.unsignedText x

/-- The text of a number with its sign always shown; not-a-number has none. -/
def signedText (s : Style) {f : Format} (x : Binary f) : List Char :=
  match x with
  | .nan => s.unsignedText x
  | _ => (if x.isNegative then '-' else '+') :: s.unsignedText x

end Style

end Fixture
