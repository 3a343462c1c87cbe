import Fixture.Number.Binary

/-! # The fewest decimal digits that read back

    Around every finite number lies the interval of reals that round to it.
    On the decimal grids of 1, 2, … significant digits the two neighbours of
    the number are tried in turn; the first grid with a neighbour inside the
    interval is taken, and of two such neighbours the nearer. -/

namespace Fixture

/-- The decimal number `coefficient · 10 ^ exponent`. -/
structure Decimal where
  coefficient : Nat
  exponent : Int
deriving DecidableEq, Repr

namespace Decimal

/-- Digits of the coefficient, most significant first. -/
def digits (d : Decimal) : List Char := Nat.toDigits 10 d.coefficient

/-- Moves up to `fuel` trailing zeros of the coefficient to the exponent. -/
def trim : Nat → Decimal → Decimal
  | 0, d => d
  | fuel + 1, d =>
      if d.coefficient % 10 = 0 ∧ d.coefficient ≠ 0 then
        trim fuel ⟨d.coefficient / 10, d.exponent + 1⟩
      else d

/-- The same number with no trailing zero in its coefficient. -/
def normal (d : Decimal) : Decimal := trim d.digits.length d

end Decimal

/-- Which of two equally near neighbours is taken. -/
inductive Tie where
  | even
  | up
deriving DecidableEq, Repr

/-- The reals that round to a number, over one denominator: the number itself,
    the two ends, and whether the ends belong to it. -/
structure Rounding where
  value : Nat
  low : Nat
  high : Nat
  denominator : Nat
  closed : Bool
deriving Repr

namespace Rounding

/-- The interval of `c · 2 ^ e` in a format: half a gap to each side, the lower
    gap being half as wide below a power of two. -/
def of (f : Format) (c : Nat) (e : Int) : Rounding :=
  let below := if c = Nat.pow 2 (f.precision - 1) ∧ f.least < e then 1 else 2
  let scale := if 2 ≤ e then Nat.pow 2 (e - 2).toNat else 1
  { value := 4 * c * scale
    low := (4 * c - below) * scale
    high := (4 * c + 2) * scale
    denominator := if 2 ≤ e then 1 else Nat.pow 2 (2 - e).toNat
    closed := c % 2 = 0 }

/-- The decimal lies in the interval. -/
def holds (r : Rounding) (d : Decimal) : Bool :=
  let up := if 0 ≤ d.exponent then Nat.pow 10 d.exponent.toNat else 1
  let down := if 0 ≤ d.exponent then 1 else Nat.pow 10 (-d.exponent).toNat
  let point := d.coefficient * up * r.denominator
  if r.closed then r.low * down ≤ point ∧ point ≤ r.high * down
  else r.low * down < point ∧ point < r.high * down

/-- The scientific exponent of the number: the largest `k` with
    `10 ^ k ≤ value / denominator`. -/
def magnitude (r : Rounding) : Int :=
  if r.denominator ≤ r.value then
    ((Nat.toDigits 10 (r.value / r.denominator)).length : Int) - 1
  else
    let k := (Nat.toDigits 10 (r.denominator / r.value)).length
    if r.denominator ≤ r.value * Nat.pow 10 (k - 1) then 1 - (k : Int) else -(k : Int)

/-- The neighbour of the number on the grid of step `10 ^ g` that lies in the
    interval, the nearer one if both do. -/
def onGrid? (r : Rounding) (tie : Tie) (g : Int) : Option Decimal :=
  let num := if 0 ≤ g then r.value else r.value * Nat.pow 10 (-g).toNat
  let den := if 0 ≤ g then r.denominator * Nat.pow 10 g.toNat else r.denominator
  let q := num / den
  let rest := num % den
  let lower : Decimal := ⟨q, g⟩
  let upper : Decimal := ⟨q + 1, g⟩
  let lowerIn := r.holds lower && q != 0
  let upperIn := r.holds upper
  let lowerFirst :=
    2 * rest < den ∨ (2 * rest = den ∧ tie = .even ∧ q % 2 = 0)
  match lowerIn, upperIn with
  | true, true => some (if lowerFirst then lower else upper)
  | true, false => some lower
  | false, true => some upper
  | false, false => none

/-- The number itself, written out exactly. -/
def exact (c : Nat) (e : Int) : Decimal :=
  if 0 ≤ e then ⟨c * Nat.pow 2 e.toNat, 0⟩ else ⟨c * Nat.pow 5 (-e).toNat, e⟩

end Rounding

/-- The shortest decimal that reads back as `c · 2 ^ e`.  Seventeen digits are
    always enough; the exact expansion closes the search. -/
def shortest (f : Format) (tie : Tie) (c : Nat) (e : Int) : Decimal :=
  let r := Rounding.of f c e
  let found :=
    (List.range 17).findSome? fun (n : Nat) => r.onGrid? tie (r.magnitude - n)
  (found.getD (Rounding.exact c e)).normal

end Fixture
