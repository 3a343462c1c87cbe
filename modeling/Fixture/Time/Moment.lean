/-! # Moments

    A moment is an instant seen from a fixed offset to universal time.  Its
    calendar date is the proleptic Gregorian one at that offset, and only the
    years from -9999 to 9999 exist. -/

namespace Fixture

/-- Whole seconds since 1970 in universal time, the nanoseconds that have
    passed since then, and an offset in seconds. -/
structure Moment where
  seconds : Int
  nanos : Nat
  offset : Int
deriving DecidableEq, Repr

/-- A calendar date. -/
structure Date where
  year : Int
  month : Nat
  day : Nat
deriving DecidableEq, Repr

/-- The date of a day counted from the first of January 1970.  Years begin in
    March here, so that a leap day ends its year, and four hundred of them make
    an era of 146097 days. -/
def Date.ofDay (day : Int) : Date :=
  let shifted := day + 719468
  let era := Int.fdiv shifted 146097
  let inEra := (Int.fmod shifted 146097).toNat
  let yearInEra := (inEra - inEra / 1460 + inEra / 36524 - inEra / 146096) / 365
  let inYear := inEra - (365 * yearInEra + yearInEra / 4 - yearInEra / 100)
  let marchMonth := (5 * inYear + 2) / 153
  let month := if marchMonth < 10 then marchMonth + 3 else marchMonth - 9
  { year := yearInEra + era * 400 + (if month ≤ 2 then 1 else 0)
    month := month
    day := inYear - (153 * marchMonth + 2) / 5 + 1 }

namespace Moment

/-- Seconds since 1970 on a clock at the moment's offset. -/
def localSeconds (m : Moment) : Int := m.seconds + m.offset

/-- The clock at the moment's offset shows a year from -9999 to 9999. -/
def InRange (m : Moment) : Prop :=
  -377705116800 ≤ m.localSeconds ∧ m.localSeconds ≤ 253402300799

instance (m : Moment) : Decidable m.InRange := by
  unfold InRange
  infer_instance

/-- The moment some milliseconds later, if there is one. -/
def shift? (m : Moment) (milliseconds : Int) : Option Moment :=
  let nanos : Int := m.nanos + milliseconds * 1000000
  let later : Moment :=
    { seconds := m.seconds + Int.fdiv nanos 1000000000
      nanos := (Int.fmod nanos 1000000000).toNat
      offset := m.offset }
  if later.InRange then some later else none

/-- Whole milliseconds since 1970. -/
def unixMilliseconds (m : Moment) : Int :=
  m.seconds * 1000 + (m.nanos / 1000000 : Nat)

/-- A number with at least `width` digits. -/
def padded (width n : Nat) : List Char :=
  let ds := Nat.toDigits 10 n
  List.replicate (width - ds.length) '0' ++ ds

/-- The fraction of a second, without trailing zeros. -/
def fraction (nanos : Nat) : List Char :=
  if nanos = 0 then []
  else '.' :: ((padded 9 nanos).reverse.dropWhile (· = '0')).reverse

/-- The offset, `Z` for universal time. -/
def offsetText (offset : Int) : List Char :=
  if offset = 0 then ['Z']
  else
    let minutes := offset.natAbs / 60
    (if offset < 0 then '-' else '+')
      :: padded 2 (minutes / 60) ++ ':' :: padded 2 (minutes % 60)

/-- The date and time in the format of RFC 3339, which has no years outside 0
    to 9999, no offsets of a day or more and none with a part of a minute. -/
def rfc3339? (m : Moment) : Option (List Char) :=
  let date := Date.ofDay (Int.fdiv m.localSeconds 86400)
  let time := (Int.fmod m.localSeconds 86400).toNat
  if date.year < 0 ∨ 9999 < date.year ∨ 86400 ≤ m.offset.natAbs
      ∨ m.offset.natAbs % 60 ≠ 0 then none
  else some <|
    padded 4 date.year.toNat ++ '-' :: padded 2 date.month ++ '-' :: padded 2 date.day
      ++ 'T' :: padded 2 (time / 3600) ++ ':' :: padded 2 (time / 60 % 60)
      ++ ':' :: padded 2 (time % 60) ++ fraction m.nanos ++ offsetText m.offset

end Moment

end Fixture
