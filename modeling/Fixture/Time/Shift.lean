import Fixture.Number.Integer
import Fixture.Text.Blank

/-! # Shifts of time

    A shift is written as a signed count and a unit, `+24h` or `-30m`; blank
    text is no shift.  Counts of minutes, hours and days that come to more
    seconds than 64 bits hold are an overflow, not a malformed shift. -/

namespace Fixture

/-- The units of a shift. -/
inductive TimeUnit where
  | milliseconds
  | seconds
  | minutes
  | hours
  | days
deriving DecidableEq, Repr

namespace TimeUnit

/-- The unit a suffix names. -/
def ofText? (s : List Char) : Option TimeUnit :=
  if s = ['m', 's'] then some .milliseconds
  else if s = ['s'] then some .seconds
  else if s = ['m'] then some .minutes
  else if s = ['h'] then some .hours
  else if s = ['d'] then some .days
  else none

/-- The length of a unit. -/
def inMilliseconds : TimeUnit → Int
  | milliseconds => 1
  | seconds => 1000
  | minutes => 60000
  | hours => 3600000
  | days => 86400000

/-- A count of the unit comes to more seconds than 64 bits hold. -/
def Overflows (u : TimeUnit) (count : Int) : Prop :=
  match u with
  | milliseconds | seconds => False
  | minutes => ¬ InSeconds (count * 60)
  | hours => ¬ InSeconds (count * 3600)
  | days => ¬ InSeconds (count * 86400)
where
  InSeconds (n : Int) : Prop := IntType.i64.least ≤ n ∧ n ≤ IntType.i64.greatest

instance (u : TimeUnit) (count : Int) : Decidable (u.Overflows count) := by
  cases u <;> unfold Overflows <;> (try unfold Overflows.InSeconds) <;> infer_instance

end TimeUnit

/-- A shift too long for its seconds to be counted. -/
structure Overflow where
  count : Int
  unit : TimeUnit
deriving DecidableEq, Repr

namespace Shift

/-- The sign and digits at the front of a shift, and the rest. -/
def amount (s : List Char) : List Char × List Char :=
  match s with
  | [] => ([], [])
  | c :: r =>
      if c = '+' ∨ c = '-' ∨ c.isDigit then
        (c :: r.takeWhile Char.isDigit, r.dropWhile Char.isDigit)
      else ([], s)

/-- The milliseconds of a shift; nothing if the text is malformed. -/
def read (text : List Char) : Except Overflow (Option Int) :=
  let s := Text.trim text
  if s = [] then .ok (some 0)
  else
    let (digits, suffix) := amount s
    match IntType.i64.readText digits, TimeUnit.ofText? suffix with
    | .ok count, some u =>
        if u.Overflows count then .error ⟨count, u⟩
        else .ok (some (count * u.inMilliseconds))
    | _, _ => .ok none

end Shift

end Fixture
