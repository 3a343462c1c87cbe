import Fixture.Environment.Setting
import Fixture.Json.Reader
import Fixture.Text.Blank
import Fixture.Text.Search

/-! # Settings from variables

    A variable whose name has the prefix of the program is a setting.  Dots in
    its name lead into mappings.  Its value is a truth value, a mapping, a
    sequence, a quoted text, a number or a bare text; a value that does not fit
    these forms as a whole is text as it stands. -/

namespace Fixture.Variables

/-! ## Values -/

/-- Blanks between the parts of a value. -/
def isSpace (c : Char) : Bool :=
  c = ' ' || c = '\t' || c = '\n' || c = '\x0c' || c = '\r'

def skipSpaces (s : List Char) : List Char := s.dropWhile isSpace

/-- A character that ends a bare text. -/
def isSeparator (c : Char) : Bool :=
  c = ',' || c = '{' || c = '}' || c = '[' || c = ']'

def isKeyChar (c : Char) : Bool := c.isAlphanum || c = '_' || c = '-'

/-- Why no value is taken. -/
inductive Refusal where
  /-- The text does not fit the form. -/
  | form
  /-- A text is cut inside a character. -/
  | cut
deriving DecidableEq, Repr

/-- A result, unless the text does not fit the form. -/
def orRefuse {α : Type} (a? : Option α) : Except Refusal α :=
  match a? with
  | some a => .ok a
  | none => .error .form

/-- The number of hexadecimal digits in front of a text, as a character. -/
def takeHex (n : Nat) (s : List Char) : Option (Char × List Char) := do
  let ds := s.take n
  if ds.length = n then
    let value ← Json.hexValue? ds
    if value.isValidChar then some (Char.ofNat value, s.drop n) else none
  else none

/-- An escape behind its backslash. -/
def takeEscape : List Char → Option (Char × List Char)
  | '"' :: s => some ('"', s)
  | '\\' :: s => some ('\\', s)
  | 'b' :: s => some ('\x08', s)
  | 'f' :: s => some ('\x0c', s)
  | 'n' :: s => some ('\n', s)
  | 'r' :: s => some ('\r', s)
  | 't' :: s => some ('\t', s)
  | 'u' :: s => takeHex 4 s
  | 'U' :: s => takeHex 8 s
  | _ => none

/-- A character that may stand in a quoted text. -/
def isPrinted (c : Char) : Bool := c = '\t' || (' ' ≤ c && c ≠ '\x7f')

/-- Takes what stands in front of the closing quote, which a backslash hides. -/
def takeInside : List Char → Option (List Char × List Char)
  | [] => none
  | '"' :: rest => some ([], rest)
  | '\\' :: c :: s =>
      (takeInside s).map fun (inside, rest) => ('\\' :: c :: inside, rest)
  | c :: s => (takeInside s).map fun (inside, rest) => (c :: inside, rest)

/-- Decodes the escapes of a quoted text. -/
def unescape : Nat → List Char → Option (List Char)
  | 0, _ => none
  | _, [] => some []
  | fuel + 1, '\\' :: s => do
      let (c, rest) ← takeEscape s
      (unescape fuel rest).map (c :: ·)
  | fuel + 1, c :: s => if isPrinted c then (unescape fuel s).map (c :: ·) else none

/-- The text between two quotes.  Of what stands in front of its first escape,
    as many bytes are kept as there are characters. -/
def ofInside (s : List Char) : Except Refusal (List Char) :=
  let lead := s.takeWhile (· ≠ '\\')
  match s.dropWhile (· ≠ '\\') with
  | [] => orRefuse (unescape (s.length + 1) s)
  | rest =>
      if lead.all isPrinted then
        match Text.takeBytes? lead.length lead with
        | none => .error .cut
        | some kept => orRefuse ((unescape (rest.length + 1) rest).map (kept ++ ·))
      else .error .form

/-- A quoted text behind its opening quote, up to and with the closing one. -/
def quoted (s : List Char) : Except Refusal (List Char × List Char) := do
  let (inside, rest) ← orRefuse (takeInside s)
  let text ← ofInside inside
  .ok (text, rest)

/-- What a bare text means: a float if it has a point, a whole number of 64
    bits, or itself. -/
def ofBare (s : List Char) : Setting :=
  let float? : Option Binary64 := if s.contains '.' then Literal.read? s else none
  match float? with
  | some x => .float x
  | none =>
      match IntType.u64.readText s with
      | .ok n => .unsigned (UInt64.ofNat n.toNat)
      | .error _ =>
          match IntType.i64.readText s with
          | .ok n => .signed (Int64.ofInt n)
          | .error _ => .text (String.ofList s)

/-- The key of an entry. -/
def takeKey (s : List Char) : Except Refusal (List Char × List Char) :=
  match s with
  | '"' :: rest => quoted rest
  | _ =>
      let key := s.takeWhile isKeyChar
      if key = [] then .error .form else .ok (key, s.dropWhile isKeyChar)

mutual

/-- A value in front of a text, with the blanks around it. -/
def takeValue : Nat → List Char → Except Refusal (Setting × List Char)
  | 0, _ => .error .form
  | fuel + 1, s => do
      let s := skipSpaces s
      let (value, rest) ←
        match Text.dropFront? "true".toList s, Text.dropFront? "false".toList s with
        | some rest, _ => .ok (Setting.bool true, rest)
        | none, some rest => .ok (Setting.bool false, rest)
        | none, none =>
            match s with
            | '{' :: rest => do
                let (entries, rest) ← takeEntries fuel rest []
                .ok (Setting.mapping entries, rest)
            | '[' :: rest => do
                let (items, rest) ← takeItems fuel rest []
                .ok (Setting.sequence items, rest)
            | '"' :: rest => do
                let (text, rest) ← quoted rest
                .ok (Setting.text (String.ofList text), rest)
            | '\'' :: c :: '\'' :: rest =>
                .ok (Setting.text (String.singleton c), rest)
            | '\'' :: _ => .error .form
            | _ =>
                let bare := s.takeWhile fun c => !isSeparator c
                .ok (ofBare (Text.trim bare), s.dropWhile fun c => !isSeparator c)
      .ok (value, skipSpaces rest)

/-- The further items of a sequence, whose last comma may be idle. -/
def takeItems : Nat → List Char → List Setting → Except Refusal (List Setting × List Char)
  | 0, _, _ => .error .form
  | fuel + 1, s, items =>
      match s with
      | ']' :: rest => .ok (items, rest)
      | _ => do
          let (item, rest) ← takeValue fuel s
          match rest with
          | ',' :: rest => takeItems fuel rest (items ++ [item])
          | ']' :: rest => .ok (items ++ [item], rest)
          | _ => .error .form

/-- The further entries of a mapping, whose last comma may be idle. -/
def takeEntries : Nat → List Char → Settings → Except Refusal (Settings × List Char)
  | 0, _, _ => .error .form
  | fuel + 1, s, entries =>
      match s with
      | '}' :: rest => .ok (entries, rest)
      | _ => do
          let (key, rest) ← takeKey (skipSpaces s)
          match skipSpaces rest with
          | '=' :: rest =>
              let (value, rest) ← takeValue fuel rest
              let entries := Assoc.insert (String.ofList key) value entries
              match rest with
              | ',' :: rest => takeEntries fuel rest entries
              | '}' :: rest => .ok (entries, rest)
              | _ => .error .form
          | _ => .error .form

end

/-- What the value of a variable means; there is no answer if a text is cut
    inside a character. -/
def parse? (value : String) : Option Setting :=
  let s := value.toList
  match takeValue (2 * s.length + 2) s with
  | .ok (setting, []) => some setting
  | .error .cut => none
  | _ => some (.text value)

/-! ## Names -/

/-- Names of variables are told apart without regard to case. -/
def fold (s : List Char) : List Char := s.map Char.toLower

/-- The keys that the name of a variable leads through, if it has the prefix
    and no key is empty. -/
def keys? (pre name : String) : Option (List String) := do
  let rest ← Text.dropFront? (fold pre.toList) (fold (Text.trim name.toList))
  let parts := Text.splitOn '.' (Text.trim rest)
  if parts.contains [] then none else some (parts.map String.ofList)

/-- A setting below a list of keys, each the only one of its mapping. -/
def nest : List String → Setting → Setting
  | [], value => value
  | key :: keys, value => .mapping [(key, nest keys value)]

/-- Sets a variable, in place if it is there already. -/
def set (name value : String) : List (String × String) → List (String × String)
  | [] => [(name, value)]
  | (n, v) :: rest =>
      if n = name then (name, value) :: rest else (n, v) :: set name value rest

/-- The settings that variables make, if all of them have a meaning; a later one
    is an upper layer. -/
def settings? (pre : String) (vars : List (String × String)) : Option Settings :=
  vars.foldlM
    (fun acc (name, value) =>
      match keys? pre name with
      | some (key :: keys) => do
          let setting ← parse? value
          some (Setting.mergeEntries acc [(key, nest keys setting)])
      | _ => some acc)
    []

end Fixture.Variables
