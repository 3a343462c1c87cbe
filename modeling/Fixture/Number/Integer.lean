import Fixture.Number.Literal

/-! # Fixed-width integers

    A text is first read into 64 bits, signed or unsigned, and the number is
    then checked against the range of its own type. -/

namespace Fixture

/-- The integer types; pointers have 64 bits. -/
inductive IntType where
  | i8 | i16 | i32 | i64 | isize
  | u8 | u16 | u32 | u64 | usize
deriving DecidableEq, Repr

namespace IntType

def name : IntType → String
  | i8 => "i8" | i16 => "i16" | i32 => "i32" | i64 => "i64" | isize => "isize"
  | u8 => "u8" | u16 => "u16" | u32 => "u32" | u64 => "u64" | usize => "usize"

def isSigned : IntType → Bool
  | i8 | i16 | i32 | i64 | isize => true
  | u8 | u16 | u32 | u64 | usize => false

def bits : IntType → Nat
  | i8 | u8 => 8
  | i16 | u16 => 16
  | i32 | u32 => 32
  | i64 | u64 | isize | usize => 64

/-- The least number of the type. -/
def least (t : IntType) : Int :=
  if t.isSigned then -(Nat.pow 2 (t.bits - 1) : Int) else 0

/-- The greatest number of the type. -/
def greatest (t : IntType) : Int :=
  if t.isSigned then (Nat.pow 2 (t.bits - 1) : Int) - 1 else (Nat.pow 2 t.bits : Int) - 1

@[simp] theorem least_i64 : i64.least = -9223372036854775808 := rfl

@[simp] theorem greatest_u64 : u64.greatest = 18446744073709551615 := rfl

/-- The type of the same signedness that texts are first read into. -/
def wide (t : IntType) : IntType := if t.isSigned then i64 else u64

/-- Why a text is no number of a type. -/
inductive Fault where
  | empty
  | invalidDigit
  | tooLarge
  | tooSmall
  | signPrefix
deriving DecidableEq, Repr

def Fault.message : Fault → String
  | .empty => "cannot parse integer from empty string"
  | .invalidDigit => "invalid digit found in string"
  | .tooLarge => "number too large to fit in target type"
  | .tooSmall => "number too small to fit in target type"
  | .signPrefix => "sign prefix not permitted"

/-- Adds digits to `acc` from the left.  The first character that is no digit
    and the first step beyond `limit` are faults, whichever comes first. -/
def readDigits (limit : Nat) (beyond : Fault) : Nat → List Char → Except Fault Nat
  | acc, [] => .ok acc
  | acc, c :: s =>
      if c.isDigit then
        let next := 10 * acc + (c.toNat - '0'.toNat)
        if limit < next then .error beyond else readDigits limit beyond next s
      else .error .invalidDigit

/-- Reads a whole text as a number of the type: digits behind an optional `+`,
    or behind a `-` if the type is signed. -/
def readText (t : IntType) (s : List Char) : Except Fault Int :=
  match s with
  | [] => .error .empty
  | ['+'] | ['-'] => .error .invalidDigit
  | '+' :: ds =>
      (readDigits t.greatest.toNat .tooLarge 0 ds).map Int.ofNat
  | '-' :: ds =>
      if t.isSigned then
        (readDigits (-t.least).toNat .tooSmall 0 ds).map fun n => -(Int.ofNat n)
      else .error .invalidDigit
  | ds => (readDigits t.greatest.toNat .tooLarge 0 ds).map Int.ofNat

/-- A number of the wide type, if the type has it. -/
def narrow (t : IntType) (n : Int) : Except Fault Int :=
  if t.greatest < n then .error .tooLarge
  else if n < t.least then .error .tooSmall
  else .ok n

/-- What a text means for the type: a sign is refused in front of unsigned
    numbers, the rest is read into 64 bits and then narrowed. -/
def read (t : IntType) (s : List Char) : Except Fault Int :=
  if !t.isSigned ∧ s.head? = some '+' then .error .signPrefix
  else do
    let n ← t.wide.readText s
    t.narrow n

end IntType

end Fixture
