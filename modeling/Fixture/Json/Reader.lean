import Fixture.Json.Basic
import Fixture.Text.Quoted
import Fixture.Text.Search

/-! # Reading JSON

    A reader takes a value off the front of a text and returns the rest, or
    says why and where it stopped.  Faults seen by looking at the next
    character point behind its first byte, the others at the end of what was
    taken; a position is a line and a number of bytes in it.  No more than 127
    brackets may be open at a time. -/

namespace Fixture

namespace Json

/-- Why a text is no JSON document. -/
inductive Reason where
  | eofValue
  | eofList
  | eofObject
  | eofString
  | expectedValue
  | expectedIdent
  | expectedColon
  | expectedListEnd
  | expectedObjectEnd
  | keyMustBeString
  | trailingComma
  | trailingCharacters
  | invalidNumber
  | numberOutOfRange
  | invalidEscape
  | controlCharacter
  | endOfHexEscape
  | loneSurrogate
  | recursionLimit
  | notSequence (found : String)
deriving DecidableEq, Repr

def Reason.message : Reason → String
  | .eofValue => "EOF while parsing a value"
  | .eofList => "EOF while parsing a list"
  | .eofObject => "EOF while parsing an object"
  | .eofString => "EOF while parsing a string"
  | .expectedValue => "expected value"
  | .expectedIdent => "expected ident"
  | .expectedColon => "expected `:`"
  | .expectedListEnd => "expected `,` or `]`"
  | .expectedObjectEnd => "expected `,` or `\x7d`"
  | .keyMustBeString => "key must be a string"
  | .trailingComma => "trailing comma"
  | .trailingCharacters => "trailing characters"
  | .invalidNumber => "invalid number"
  | .numberOutOfRange => "number out of range"
  | .invalidEscape => "invalid escape"
  | .controlCharacter =>
      "control character (\\u0000-\\u001F) found while parsing a string"
  | .endOfHexEscape => "unexpected end of hex escape"
  | .loneSurrogate => "lone leading surrogate in hex escape"
  | .recursionLimit => "recursion limit exceeded"
  | .notSequence found => "invalid type: " ++ found ++ ", expected a sequence"

/-- A fault with its position. -/
structure Fault where
  reason : Reason
  line : Nat
  column : Nat
deriving DecidableEq, Repr

def Fault.message (f : Fault) : String :=
  f.reason.message ++ " at line " ++ toString f.line ++ " column " ++ toString f.column

/-- Where a reader stopped: in front of `rest`, of which `ahead` bytes count as
    taken already. -/
structure Stop where
  reason : Reason
  rest : List Char
  ahead : Nat

/-- A value taken off the front of a text, and the rest. -/
abbrev Taken (α : Type) := α × List Char

/-- Line and column behind the first `bytes` bytes of a text. -/
def position : List Char → Nat → Nat × Nat → Nat × Nat
  | [], _, seen => seen
  | c :: s, bytes, (line, column) =>
      if c.utf8Size ≤ bytes then
        position s (bytes - c.utf8Size)
          (if c = '\n' then (line + 1, 0) else (line, column + c.utf8Size))
      else (line, column + bytes)

/-- The fault of a reader that stopped in `s`. -/
def Stop.inText (s : List Char) (stop : Stop) : Fault :=
  let (line, column) :=
    position s (Text.byteSize s - Text.byteSize stop.rest + stop.ahead) (1, 0)
  ⟨stop.reason, line, column⟩

def isSpace (c : Char) : Bool := c = ' ' || c = '\n' || c = '\t' || c = '\r'

def skipSpace (s : List Char) : List Char := s.dropWhile isSpace

/-- Takes the letters of `word` off the text. -/
def takeWord {α : Type} (result : α) : List Char → List Char → Except Stop (Taken α)
  | [], s => .ok (result, s)
  | _ :: _, [] => .error ⟨.eofValue, [], 0⟩
  | w :: ws, c :: s =>
      if c = w then takeWord result ws s else .error ⟨.expectedIdent, c :: s, 1⟩

/-! ## Numbers -/

/-- How many digits of an exponent are taken before it leaves 32 bits. -/
def exponentOverflow : Nat → Nat → List Char → Option Nat
  | _, _, [] => none
  | taken, n, c :: s =>
      let next := 10 * n + (c.toNat - '0'.toNat)
      if 2147483648 ≤ next then some (taken + 1) else exponentOverflow (taken + 1) next s

/-- Appends digits to a number as long as it fits 64 bits, and counts them. -/
def appendDigits (m : Nat) : List Char → Nat × Nat
  | [] => (m, 0)
  | c :: ds =>
      let next := 10 * m + (c.toNat - '0'.toNat)
      if next < 18446744073709551616 then
        let (value, count) := appendDigits next ds
        (value, count + 1)
      else (m, 0)

/-- Multiplies a double by `10 ^ x`, in steps of at most 308 places that are
    rounded one by one.  A number that is too large has no answer. -/
def shiftPlaces (d : Binary64) (x : Int) : Option Binary64 :=
  if x.natAbs ≤ 308 then
    if 0 ≤ x then
      let d := d.times (.tenTo x.natAbs)
      if d.isFinite then some d else none
    else some (d.dividedBy (.tenTo x.natAbs))
  else if d.isZero then some d
  else if 0 ≤ x then none
  else shiftPlaces (d.dividedBy (.tenTo 308)) (x + 308)
termination_by x.natAbs

/-- The double `± m · 10 ^ x`, or the fault of one that is too large.  Both
    `m` and the result are rounded. -/
def realNumber (negative : Bool) (m : Nat) (x : Int) (rest : List Char) :
    Except Stop (Taken JsonNumber) :=
  match shiftPlaces (.ofQuotient negative m 1) x >>= JsonNumber.ofReal? with
  | some n => .ok (n, rest)
  | none => .error ⟨.numberOutOfRange, rest, 0⟩

/-- The exponent behind its letter, for a number with the digits `m · 10 ^ x`. -/
def takeExponent (negative : Bool) (m : Nat) (x : Int) (s : List Char) :
    Except Stop (Taken JsonNumber) :=
  let (down, s) := takeSign s
  let ds := s.takeWhile Char.isDigit
  let rest := s.dropWhile Char.isDigit
  match s with
  | [] => .error ⟨.eofValue, [], 0⟩
  | _ =>
      if ds = [] then .error ⟨.invalidNumber, s, 1⟩
      else
        match exponentOverflow 0 0 ds with
        | some taken =>
            if m ≠ 0 ∧ down = false then .error ⟨.numberOutOfRange, s, taken⟩
            else realNumber negative 0 0 rest
        | none =>
            let k : Int := digitsValue ds
            realNumber negative m (if down then x - k else x + k) rest

/-- What follows the whole digits `ds` of a number.  Digits that do not fit 64
    bits only move the point. -/
def takeFraction (negative : Bool) (ds : List Char) (s : List Char) :
    Except Stop (Taken JsonNumber) :=
  let (m, taken) := appendDigits 0 ds
  let x : Int := (ds.length : Int) - taken
  match s with
  | '.' :: s =>
      let ds := s.takeWhile Char.isDigit
      let rest := s.dropWhile Char.isDigit
      if ds = [] then
        .error ⟨if s = [] then .eofValue else .invalidNumber, s, 1⟩
      else
        let (m, taken) := appendDigits m ds
        let x := x - taken
        match rest with
        | 'e' :: rest | 'E' :: rest => takeExponent negative m x rest
        | _ => realNumber negative m x rest
  | 'e' :: rest | 'E' :: rest => takeExponent negative m x rest
  | _ =>
      let n : Int := m
      let exact :=
        if x ≠ 0 then none
        else if negative then if n = 0 then none else JsonNumber.ofInt? (-n)
        else JsonNumber.ofInt? n
      match exact with
      | some n => .ok (n, s)
      | none => realNumber negative m x s

/-- A number behind its sign. -/
def takeNumber (negative : Bool) (s : List Char) : Except Stop (Taken JsonNumber) :=
  match s with
  | [] => .error ⟨.eofValue, [], 0⟩
  | '0' :: rest =>
      match rest with
      | c :: _ =>
          if c.isDigit then .error ⟨.invalidNumber, rest, 1⟩
          else takeFraction negative ['0'] rest
      | [] => takeFraction negative ['0'] rest
  | c :: _ =>
      if c.isDigit then
        takeFraction negative (s.takeWhile Char.isDigit) (s.dropWhile Char.isDigit)
      else .error ⟨.invalidNumber, s, 1⟩

/-! ## Strings -/

def hexDigit? (c : Char) : Option Nat :=
  if c.isDigit then some (c.toNat - '0'.toNat)
  else if 'a' ≤ c ∧ c ≤ 'f' then some (c.toNat - 'a'.toNat + 10)
  else if 'A' ≤ c ∧ c ≤ 'F' then some (c.toNat - 'A'.toNat + 10)
  else none

/-- The number written by hexadecimal digits. -/
def hexValue? (ds : List Char) : Option Nat :=
  ds.foldlM (fun n c => (hexDigit? c).map (16 * n + ·)) 0

/-- Four hexadecimal digits. -/
def takeHex (s : List Char) : Except Stop (Taken Nat) :=
  if Text.byteSize s < 4 then .error ⟨.eofString, [], 0⟩
  else
    match hexValue? (s.take 4) with
    | some n => .ok (n, s.drop 4)
    | none => .error ⟨.invalidEscape, s, 4⟩

/-- The character of a hexadecimal escape; two escapes make up a character
    beyond the first plane. -/
def takeUnicode (s : List Char) : Except Stop (Taken Char) := do
  let (n, s) ← takeHex s
  if 0xDC00 ≤ n ∧ n ≤ 0xDFFF then .error ⟨.loneSurrogate, s, 0⟩
  else if n < 0xD800 ∨ 0xDBFF < n then .ok (Char.ofNat n, s)
  else
    match s with
    | [] => .error ⟨.eofString, [], 0⟩
    | ['\\'] => .error ⟨.eofString, [], 0⟩
    | '\\' :: 'u' :: s =>
        let (n', s) ← takeHex s
        if n' < 0xDC00 ∨ 0xDFFF < n' then .error ⟨.loneSurrogate, s, 0⟩
        else .ok (Char.ofNat (0x10000 + (n - 0xD800) * 0x400 + (n' - 0xDC00)), s)
    | '\\' :: s => .error ⟨.endOfHexEscape, s, 1⟩
    | s => .error ⟨.endOfHexEscape, s, 1⟩

/-- The character of an escape, behind its backslash. -/
def takeEscape (s : List Char) : Except Stop (Taken Char) :=
  match s with
  | [] => .error ⟨.eofString, [], 0⟩
  | '"' :: s => .ok ('"', s)
  | '\\' :: s => .ok ('\\', s)
  | '/' :: s => .ok ('/', s)
  | 'b' :: s => .ok ('\x08', s)
  | 'f' :: s => .ok ('\x0c', s)
  | 'n' :: s => .ok ('\n', s)
  | 'r' :: s => .ok ('\r', s)
  | 't' :: s => .ok ('\t', s)
  | 'u' :: s => takeUnicode s
  | s => .error ⟨.invalidEscape, s, 1⟩

/-- The rest of a string behind its first quote.  Every step takes at least one
    character, so `fuel` may be the length of the text. -/
def takeString : Nat → List Char → Except Stop (Taken (List Char))
  | _, [] => .error ⟨.eofString, [], 0⟩
  | 0, s => .error ⟨.eofString, s, 0⟩
  | fuel + 1, c :: s =>
      if c = '"' then .ok ([], s)
      else if c = '\\' then do
        let (d, s) ← takeEscape s
        let (ds, s) ← takeString fuel s
        .ok (d :: ds, s)
      else if c.toNat < 0x20 then .error ⟨.controlCharacter, c :: s, 1⟩
      else do
        let (ds, s) ← takeString fuel s
        .ok (c :: ds, s)

/-- A string behind its first quote. -/
def takeText (s : List Char) : Except Stop (Taken String) := do
  let (cs, s) ← takeString s.length s
  .ok (String.ofList cs, s)

/-! ## Values -/

/-- The colon between a key and its value. -/
def takeColon (s : List Char) : Except Stop (Taken Unit) :=
  match skipSpace s with
  | [] => .error ⟨.eofObject, [], 0⟩
  | ':' :: s => .ok ((), s)
  | s => .error ⟨.expectedColon, s, 1⟩

mutual

/-- A value with at most `depth - 1` more brackets open inside it.  Every call
    is for a shorter text or the second at one place, so `fuel` may be twice
    the length of the text. -/
def takeValue : Nat → Nat → List Char → Except Stop (Taken Json)
  | 0, _, s => .error ⟨.eofValue, s, 0⟩
  | fuel + 1, depth, s =>
      match skipSpace s with
      | [] => .error ⟨.eofValue, [], 0⟩
      | 'n' :: s => takeWord .null "ull".toList s
      | 't' :: s => takeWord (.bool true) "rue".toList s
      | 'f' :: s => takeWord (.bool false) "alse".toList s
      | '"' :: s => do
          let (text, s) ← takeText s
          .ok (.string text, s)
      | '[' :: s =>
          if depth ≤ 1 then .error ⟨.recursionLimit, '[' :: s, 1⟩
          else do
            let (items, s) ← takeItems fuel (depth - 1) true s
            .ok (.array items, s)
      | '{' :: s =>
          if depth ≤ 1 then .error ⟨.recursionLimit, '{' :: s, 1⟩
          else do
            let (members, s) ← takeMembers fuel (depth - 1) true s
            .ok (.object (Assoc.ofList members), s)
      | '-' :: s => do
          let (n, s) ← takeNumber true s
          .ok (.number n, s)
      | c :: s =>
          if c.isDigit then do
            let (n, s) ← takeNumber false (c :: s)
            .ok (.number n, s)
          else .error ⟨.expectedValue, c :: s, 1⟩

/-- The items of an array up to its bracket; `first` if none was taken yet. -/
def takeItems : Nat → Nat → Bool → List Char → Except Stop (Taken (List Json))
  | 0, _, _, s => .error ⟨.eofList, s, 0⟩
  | fuel + 1, depth, first, s =>
      let item (s : List Char) : Except Stop (Taken (List Json)) := do
        let (v, s) ← takeValue fuel depth s
        let (vs, s) ← takeItems fuel depth false s
        .ok (v :: vs, s)
      match skipSpace s, first with
      | [], _ => .error ⟨.eofList, [], 0⟩
      | ']' :: s, _ => .ok ([], s)
      | s, true => item s
      | ',' :: s, false =>
          match skipSpace s with
          | ']' :: s => .error ⟨.trailingComma, ']' :: s, 1⟩
          | s => item s
      | s, false => .error ⟨.expectedListEnd, s, 1⟩

/-- The members of an object up to its brace, in the order of the text. -/
def takeMembers : Nat → Nat → Bool → List Char → Except Stop (Taken (List (String × Json)))
  | 0, _, _, s => .error ⟨.eofObject, s, 0⟩
  | fuel + 1, depth, first, s =>
      let member (s : List Char) : Except Stop (Taken (List (String × Json))) :=
        match s with
        | '"' :: s => do
            let (key, s) ← takeText s
            let (_, s) ← takeColon s
            let (v, s) ← takeValue fuel depth s
            let (ms, s) ← takeMembers fuel depth false s
            .ok ((key, v) :: ms, s)
        | [] => .error ⟨.eofValue, [], 0⟩
        | s => .error ⟨.keyMustBeString, s, 1⟩
      match skipSpace s, first with
      | [], _ => .error ⟨.eofObject, [], 0⟩
      | '}' :: s, _ => .ok ([], s)
      | s, true => member s
      | ',' :: s, false =>
          match skipSpace s with
          | '}' :: s => .error ⟨.trailingComma, '}' :: s, 1⟩
          | s => member s
      | s, false => .error ⟨.expectedObjectEnd, s, 1⟩

end

/-- How many brackets may be open, less one. -/
def depthLimit : Nat := 128

/-- Nothing but space may follow. -/
def finish {α : Type} (r : Taken α) : Except Stop α :=
  match skipSpace r.2 with
  | [] => .ok r.1
  | s => .error ⟨.trailingCharacters, s, 1⟩

/-- Reads a whole text as a document. -/
def read (s : List Char) : Except Fault Json :=
  ((takeValue (2 * s.length + 1) depthLimit s).bind finish).mapError (·.inText s)

/-- What a value is called where a sequence was expected. -/
def describe : Json → String
  | .null => "null"
  | .bool b => "boolean `" ++ (if b then "true" else "false") ++ "`"
  | .number (.integer n _) => "integer `" ++ toString n ++ "`"
  | .number (.real x _) =>
      "floating point `" ++ String.ofList (Style.json.text x) ++ "`"
  | .string s => "string " ++ String.ofList (Text.Quoted.quote s.toList)
  | .array _ => "sequence"
  | .object _ => "map"

/-- An array at the front of a text.  Another scalar there is read to its end
    before it is refused, an object is not. -/
def takeArray (s : List Char) : Except Stop (Taken (List Json)) :=
  let s := skipSpace s
  match s with
  | '[' :: r => takeItems (2 * r.length + 1) (depthLimit - 1) true r
  | '{' :: _ => .error ⟨.notSequence "map", s, 0⟩
  | _ => do
      let (j, rest) ← takeValue (2 * s.length + 1) depthLimit s
      .error ⟨.notSequence (describe j), rest, 0⟩

/-- Reads a whole text as an array. -/
def readArray (s : List Char) : Except Fault (List Json) :=
  ((takeArray s).bind finish).mapError (·.inText s)

end Json

end Fixture
