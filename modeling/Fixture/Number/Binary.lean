/-! # Binary floating-point numbers, exactly

    A finite number is `± coefficient · 2 ^ exponent` with the coefficient and
    the exponent in the one canonical position its format allows, so two data
    are the same number exactly when they are equal.  Rounding is done on
    quotients of naturals; nothing here leaves exact arithmetic. -/

namespace Fixture

/-- A binary interchange format: bits of the coefficient, and the exponents of
    the last place of the smallest and of the largest finite numbers. -/
structure Format where
  precision : Nat
  least : Int
  greatest : Int
deriving DecidableEq, Repr

namespace Format

/-- Double precision. -/
def binary64 : Format := ⟨53, -1074, 971⟩

/-- Single precision. -/
def binary32 : Format := ⟨24, -149, 104⟩

/-- The coefficient fits, the exponent is in range, and the leading bit is set
    unless the exponent is already the least one. -/
def Canonical (f : Format) (c : Nat) (e : Int) : Prop :=
  c < Nat.pow 2 f.precision ∧ f.least ≤ e ∧ e ≤ f.greatest
    ∧ (e = f.least ∨ Nat.pow 2 (f.precision - 1) ≤ c)

instance (f : Format) (c : Nat) (e : Int) : Decidable (f.Canonical c e) := by
  unfold Canonical
  infer_instance

end Format

/-- A number of a binary format. -/
inductive Binary (f : Format) where
  | nan
  | infinite (negative : Bool)
  | finite (negative : Bool) (coefficient : Nat) (exponent : Int)
      (canonical : f.Canonical coefficient exponent)
deriving DecidableEq

abbrev Binary64 := Binary .binary64

abbrev Binary32 := Binary .binary32

namespace Binary

variable {f : Format}

/-- The number `± c · 2 ^ e`, for `c` and `e` in canonical position; anything
    else is beyond the format and becomes infinite. -/
def ofScaled (negative : Bool) (c : Nat) (e : Int) : Binary f :=
  if h : f.Canonical c e then .finite negative c e h else .infinite negative

/-- The nearest whole number to `num / den`; a half goes to the even one. -/
def nearestEven (num den : Nat) : Nat :=
  let q := num / den
  let r := num % den
  if 2 * r < den ∨ (2 * r = den ∧ q % 2 = 0) then q else q + 1

/-- `num / den · 2 ^ (-e)` as a quotient of naturals. -/
def scaleDown (num den : Nat) (e : Int) : Nat × Nat :=
  if 0 ≤ e then (num, den * Nat.pow 2 e.toNat) else (num * Nat.pow 2 (-e).toNat, den)

/-- The exponent of the leading bit of `num / den`, both positive. -/
def leadingBit (num den : Nat) : Int :=
  let guess : Int := (num.log2 : Int) - (den.log2 : Int)
  let scaled := scaleDown num den guess
  if scaled.1 < scaled.2 then guess - 1 else guess

/-- `± num / den` rounded to the format, ties to even. -/
def ofQuotient (negative : Bool) (num den : Nat) : Binary f :=
  if num = 0 then ofScaled negative 0 f.least
  else
    let e := max f.least (leadingBit num den - ((f.precision : Int) - 1))
    let scaled := scaleDown num den e
    let c := nearestEven scaled.1 scaled.2
    if c = Nat.pow 2 f.precision then ofScaled negative (Nat.pow 2 (f.precision - 1)) (e + 1)
    else ofScaled negative c e

/-- `± m · 10 ^ x` rounded to the format.  A power of ten so large or so small
    that no rounding is needed to tell the result is not computed. -/
def ofDecimal (negative : Bool) (m : Nat) (x : Int) : Binary f :=
  if m = 0 then ofScaled negative 0 f.least
  else if f.greatest + f.precision < 3 * x then .infinite negative
  else if 3 * (((Nat.toDigits 10 m).length : Int) + x) < f.least - 1 then
    ofScaled negative 0 f.least
  else if 0 ≤ x then ofQuotient negative (m * Nat.pow 10 x.toNat) 1
  else ofQuotient negative m (Nat.pow 10 (-x).toNat)

/-- A whole number rounded to the format. -/
def ofInt (n : Int) : Binary f :=
  ofQuotient (n < 0) n.natAbs 1

/-- `± num / den · 2 ^ e` rounded to the format. -/
def ofScaledQuotient (negative : Bool) (num den : Nat) (e : Int) : Binary f :=
  if 0 ≤ e then ofQuotient negative (num * Nat.pow 2 e.toNat) den
  else ofQuotient negative num (den * Nat.pow 2 (-e).toNat)

/-- The same number in another format, rounded. -/
def convert {g : Format} : Binary f → Binary g
  | .nan => .nan
  | .infinite negative => .infinite negative
  | .finite negative c e _ => ofScaledQuotient negative c 1 e

/-- A power of ten, rounded to the format. -/
def tenTo (n : Nat) : Binary f := ofDecimal false 1 n

/-- A number times a positive finite one, rounded. -/
def times (x y : Binary f) : Binary f :=
  match x, y with
  | .finite negative c e _, .finite _ d k _ => ofScaledQuotient negative (c * d) 1 (e + k)
  | _, _ => x

/-- A number divided by a positive finite one, rounded. -/
def dividedBy (x y : Binary f) : Binary f :=
  match x, y with
  | .finite negative c e _, .finite _ d k _ => ofScaledQuotient negative c d (e - k)
  | _, _ => x

def isZero : Binary f → Bool
  | .finite _ c _ _ => c = 0
  | _ => false

def isNan : Binary f → Bool
  | .nan => true
  | _ => false

def isFinite : Binary f → Bool
  | .finite .. => true
  | _ => false

def isInfinite : Binary f → Bool
  | .infinite _ => true
  | _ => false

/-- The sign; not-a-number has none. -/
def isNegative : Binary f → Bool
  | .nan => false
  | .infinite negative => negative
  | .finite negative .. => negative

/-- The whole number a datum stands for, when it has no fractional part. -/
def toInt? : Binary f → Option Int
  | .finite negative c e _ =>
      let signed (n : Nat) : Int := if negative then -n else n
      if 0 ≤ e then some (signed (c * Nat.pow 2 e.toNat))
      else if c % Nat.pow 2 (-e).toNat = 0 then some (signed (c / Nat.pow 2 (-e).toNat))
      else none
  | _ => none

/-- Bits of the exponent field that stand for the infinities. -/
def topExponent (f : Format) : Nat := (f.greatest - f.least + 2).toNat

/-- The interchange encoding as one number: sign, exponent, trailing bits.
    Not-a-number has many encodings; the one given is the quiet one. -/
def bits : Binary f → Nat
  | .nan => (2 * topExponent f + 1) * Nat.pow 2 (f.precision - 2)
  | .infinite negative =>
      sign negative + topExponent f * Nat.pow 2 (f.precision - 1)
  | .finite negative c e _ =>
      if c < Nat.pow 2 (f.precision - 1) then sign negative + c
      else sign negative + (e - f.least).toNat * Nat.pow 2 (f.precision - 1) + c
where
  sign (negative : Bool) : Nat :=
    if negative then (topExponent f + 1) * Nat.pow 2 (f.precision - 1) else 0

end Binary

end Fixture
