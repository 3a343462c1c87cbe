import Fixture.Number.Binary

/-! # Float literals

    A literal is an optional sign and then a word (`inf`, `infinity`, `nan`, in
    any case) or digits with an optional point and an optional exponent.  The
    number read is the correctly rounded one; too large a number is infinite. -/

namespace Fixture

/-- A run of decimal digits as a number. -/
def digitsValue (ds : List Char) : Nat :=
  ds.foldl (fun n c => 10 * n + (c.toNat - '0'.toNat)) 0

/-- An optional sign in front of a text: whether it is a minus, and the rest. -/
def takeSign : List Char → Bool × List Char
  | '+' :: s => (false, s)
  | '-' :: s => (true, s)
  | s => (false, s)

namespace Literal

/-- Why a text is no float literal. -/
inductive Fault where
  | empty
  | invalid
deriving DecidableEq, Repr

def Fault.message : Fault → String
  | .empty => "cannot parse float from empty string"
  | .invalid => "invalid float literal"

/-- The exponent part at the end of a literal: nothing, or `e` with an optional
    sign and at least one digit. -/
def exponent? : List Char → Option Int
  | [] => some 0
  | c :: s =>
      if c = 'e' ∨ c = 'E' then
        let (negative, ds) := takeSign s
        if ds ≠ [] ∧ ds.all Char.isDigit then
          some (if negative then -(digitsValue ds : Int) else digitsValue ds)
        else none
      else none

/-- Digits with an optional point and an optional exponent, as `m · 10 ^ x`. -/
def decimal? (s : List Char) : Option (Nat × Int) :=
  let whole := s.takeWhile Char.isDigit
  let rest := s.dropWhile Char.isDigit
  let (fraction, tail) := match rest with
    | '.' :: more => (more.takeWhile Char.isDigit, more.dropWhile Char.isDigit)
    | _ => ([], rest)
  if whole = [] ∧ fraction = [] then none
  else (exponent? tail).map fun x =>
    (digitsValue (whole ++ fraction), x - fraction.length)

/-- A literal without its sign. -/
def unsigned? {f : Format} (negative : Bool) (s : List Char) : Option (Binary f) :=
  let word := s.map Char.toLower
  if word = "inf".toList ∨ word = "infinity".toList then some (.infinite negative)
  else if word = "nan".toList then some .nan
  else (decimal? s).map fun (m, x) => Binary.ofDecimal negative m x

/-- Reads a whole text as a float literal. -/
def read {f : Format} (s : List Char) : Except Fault (Binary f) :=
  if s = [] then .error .empty
  else
    let (negative, rest) := takeSign s
    match unsigned? negative rest with
    | some x => .ok x
    | none => .error .invalid

/-- The number a text denotes, if it is a float literal. -/
def read? {f : Format} (s : List Char) : Option (Binary f) := (read s).toOption

end Literal

end Fixture
