import Fixture.Digest.Base64
import Fixture.Environment.Setting
import Fixture.Text.Blank
import Fixture.Yaml.Kind
import Fixture.Yaml.Refusal

/-! # Settings of a YAML document

    What the nodes of a document mean.  A plain scalar is a truth value, a whole
    number or a float if it reads as one; quoted scalars are text, and only a
    tag makes a null.  A key is always text.  Keys are told apart by their
    spelling and the kind of their tag, and each occurs once; the key `<<`
    merges other mappings in, behind the entries that stand beside it. -/

namespace Fixture.Setting

open Yaml (Node Kind Form)

/-! ## Scalars -/

/-- A run of digits of a base.  Underscores between them are passed over, and
    there has to be a digit. -/
def digits? (base : Nat) (s : List Char) : Option Nat :=
  let ds := s.filter (· ≠ '_')
  if ds = [] then none
  else ds.foldlM
    (fun n c => do
      let d ← Json.hexDigit? c
      if d < base then some (base * n + d) else none)
    0

/-- The base that a number without its sign is written in, and its digits. -/
def takeBase : List Char → Nat × List Char
  | '0' :: x :: ds =>
      if x = 'x' ∨ x = 'X' then (16, ds)
      else if x = 'o' ∨ x = 'O' then (8, ds)
      else if x = 'b' ∨ x = 'B' then (2, ds)
      else (10, '0' :: x :: ds)
  | ds => (10, ds)

/-- A whole number of 64 bits, signed if it is written with a minus. -/
def integer? (s : List Char) : Option Setting := do
  let (negative, rest) := takeSign s
  let (base, ds) := takeBase rest
  let n ← digits? base ds
  if negative then
    if n ≤ 9223372036854775808 then some (.signed (Int64.ofInt (-n))) else none
  else if n < 18446744073709551616 then some (.unsigned (UInt64.ofNat n))
  else none

/-- A float, written as a literal or as a word with a point in front. -/
def float? (s : List Char) : Option Binary64 :=
  let (negative, rest) := takeSign s
  let word := rest.map Char.toLower
  if word = ".inf".toList then some (.infinite negative)
  else if word = ".nan".toList then some .nan
  else Literal.read? s

/-- A float as a setting; the ones that are not finite become words. -/
def ofFloat (x : Binary64) : Setting :=
  match x with
  | .nan => .text ".nan"
  | .infinite negative => .text (if negative then "-.inf" else ".inf")
  | .finite .. => .float x

/-- What a plain scalar means. -/
def ofPlain (s : List Char) : Setting :=
  let t := Text.trim s
  let word := t.map Char.toLower
  if word = "true".toList then .bool true
  else if word = "false".toList then .bool false
  else
    match integer? t with
    | some n => n
    | none =>
        match float? t with
        | some x => ofFloat x
        | none => .text (String.ofList s)

/-- The text that a scalar of bytes stands for; blanks in it do not count. -/
def ofBytes? (s : List Char) : Option String := do
  let bytes ← Base64.decode? (s.filter fun c => !Text.isBlank c)
  String.fromUTF8? ⟨bytes.toArray⟩

/-- A scalar as text, which only some kinds allow. -/
def text? (kind : Kind) (s : List Char) : Option String :=
  if kind = .bytes then ofBytes? s
  else if kind.isPassedOver then some (String.ofList s)
  else none

/-- What a scalar means: a plain one is read for what it says unless its kind
    decides, and all others are text. -/
def ofScalar? (kind : Kind) (form : Form) (s : List Char) : Option Setting :=
  if kind = .null then some .null
  else if form = .plain ∧ kind.isPassedOver then some (ofPlain s)
  else (text? kind s).map .text

/-! ## Mappings -/

/-- A key, with what tells it from other keys and, if it has one, its text. -/
structure Key where
  kind : Kind
  spelling : List Char
  text : Option String

/-- Two keys are the same key. -/
def Key.same (a b : Key) : Bool := a.kind = b.kind && a.spelling = b.spelling

/-- An entry of a mapping, whose value may have no meaning. -/
abbrev Entry := Key × Option Setting

/-- The key that a node makes. -/
def key? : Node → Option Key
  | .scalar tag _ s =>
      let kind := Kind.ofTag tag
      some ⟨kind, s, text? kind s⟩
  | _ => none

/-- The key that merges mappings in. -/
def isMergeKey : Node → Bool
  | .scalar none .plain ['<', '<'] => true
  | _ => false

/-- A scalar that stands for nothing to merge. -/
def isNothing (form : Form) (s : List Char) : Bool :=
  form = .plain && (s = [] || s = ['~'] || s.map Char.toLower = "null".toList)

/-- Entries without those whose key has occurred before. -/
def firsts : List Key → List Entry → List Entry
  | _, [] => []
  | seen, (key, value) :: entries =>
      if seen.any key.same then firsts seen entries
      else (key, value) :: firsts (key :: seen) entries

/-- No key occurs twice. -/
def areDistinct : List Key → Bool
  | [] => true
  | key :: keys => !keys.any key.same && areDistinct keys

/-- The setting of a mapping with these entries of its own, which must have
    different keys, and these merged into it.  An entry that is not used may
    have no meaning; of keys with the same text the last one counts. -/
def ofEntries? (own merged : List Entry) : Option Setting :=
  if areDistinct (own.map Prod.fst) then do
    let entries ← (firsts [] (own ++ merged)).mapM fun (key, value) => do
      some (← key.text, ← value)
    some (.mapping (Assoc.ofList entries))
  else none

mutual

/-- What a node means. -/
def ofNode? : Node → Option Setting
  | .scalar tag form s => ofScalar? (Kind.ofTag tag) form s
  | .sequence items => (ofItems? items).map .sequence
  | .mapping entries => do
      let (own, merged) ← divide entries
      ofEntries? own merged

def ofItems? : List Node → Option (List Setting)
  | [] => some []
  | item :: items => do
      let first ← ofNode? item
      let others ← ofItems? items
      some (first :: others)

/-- Divides the entries of a mapping into its own and those that are merged
    into it, the latest merge first. -/
def divide : List (Node × Node) → Option (List Entry × List Entry)
  | [] => some ([], [])
  | (key, value) :: entries => do
      let (own, merged) ← divide entries
      if isMergeKey key then do
        let more ← offered value
        some (own, merged ++ more)
      else do
        let k ← key? key
        some ((k, ofNode? value) :: own, merged)

/-- The entries that a node offers to a mapping it is merged into. -/
def offered : Node → Option (List Entry)
  | .scalar _ form s => if isNothing form s then some [] else none
  | .sequence items => offeredItems items
  | .mapping entries => do
      let (own, merged) ← divide entries
      some (own ++ merged)

/-- The entries that nodes offer, the last node's first. -/
def offeredItems : List Node → Option (List Entry)
  | [] => some []
  | item :: items => do
      let more ← offeredItems items
      let these ← offered item
      some (more ++ these)

end

/-- The setting that a YAML text describes; a text without a document is null,
    and a mark of the byte order in front is passed over. -/
def ofYaml? (s : String) : Option Setting := do
  let text := match s.toList with
    | '\ufeff' :: rest => rest
    | all => all
  if Yaml.isRefused text then none
  else
    match ← Node.read text with
    | some n => ofNode? n
    | none => some .null

end Fixture.Setting
