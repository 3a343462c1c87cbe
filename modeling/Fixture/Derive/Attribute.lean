import Fixture.Derive.Item

/-! # Attributes

    What the `bind` attributes of an item and of its fields say.  Their entries
    are read from left to right, and the last entry of a kind counts.  An entry
    of another kind is passed over; one with an equals sign takes everything up
    to the end of its attribute with it. -/

namespace Fixture.Derive

open Token (startsWith startsWithLiteral)
open Reader

/-! ## Entries -/

/-- A segment of the key of an entry. -/
def keySegment : Reader (List Token) := do
  match ← get with
  | .word _ :: _ => anyToken
  | _ => missing "ident"

/-- The key of an entry.  A path of several segments is no key that is known. -/
def entryKey : Reader (Option String) := do
  let colons ← marks? "::"
  match ← get with
  | [] => missing "nested attribute"
  | .word w :: rest =>
      set rest
      let others ← many (startsWith "::") do
        let _ ← marks "::"
        keySegment
      return if colons.isEmpty && others.isEmpty then some w else none
  | ts => throw (.notKey (if startsWithLiteral ts then "literal" else "token"))

/-- Passes over an entry of an unknown kind. -/
def passOver : Reader Unit := do
  match ← get with
  | .mark "=" _ :: _ => set ([] : List Token)
  | .group .parenthesis _ :: rest => set rest
  | _ => return

/-- The text behind the equals sign of an entry, and the letters behind it. -/
def entryText (key : String) : Reader (List Char × List Char) := do
  let _ ← marks "="
  match ← literal with
  | [.literal l] =>
      match stringValue? l with
      | some text => return text
      | none => throw (.notString key)
  | _ => throw (.notString key)

/-- Reads entries from left to right.  `read` takes what stands behind a key. -/
def readEntries {α : Type} (read : α → Option String → Reader α) : Nat → α → Reader α
  | 0, a => return a
  | fuel + 1, a => do
      let a ← read a (← entryKey)
      if ← ahead List.isEmpty then return a
      let _ ← marks ","
      if ← ahead List.isEmpty then return a
      readEntries read fuel a

/-- Reads the entries of an attribute, if it is one of ours. -/
def readAttribute {α : Type} (read : α → Option String → Reader α) (a : α) :
    List Token → Except Fault α
  | [.word "bind"] => .error .noEntries
  | .word "bind" :: .mark "=" _ :: _ => .error .notEntries
  | .word "bind" :: .group _ [] :: _ => .ok a
  | .word "bind" :: .group _ inner :: _ => (readEntries read inner.length a).all inner
  | _ => .ok a

/-- Reads attributes one after another. -/
def readAttributes {α : Type} (read : α → Option String → Reader α) (a : α)
    (attributes : List (List Token)) : Except Fault α :=
  attributes.foldlM (readAttribute read) a

/-! ## Fields -/

/-- What the attributes of a field say. -/
structure FieldOptions where
  /-- The name that replaces the name of the field. -/
  renamed : Option (List Char)
  skipped : Bool
deriving DecidableEq, Repr

/-- Reads what stands behind the key of an entry of a field. -/
def fieldEntry (o : FieldOptions) (key : Option String) : Reader FieldOptions := do
  if key = some "rename" then
    let (text, _) ← entryText "rename"
    if text.isEmpty then throw .emptyName else return { o with renamed := some text }
  else if key = some "skip" then return { o with skipped := true }
  else
    passOver
    return o

def FieldOptions.ofAttributes (attributes : List (List Token)) :
    Except Fault FieldOptions :=
  readAttributes fieldEntry ⟨none, false⟩ attributes

/-! ## The library the implementation refers to -/

/-- The path that a text spells. -/
def readPath (text : List Char) : Except Fault (List Token) :=
  match Token.read text with
  | none => .error .notTokens
  | some ts => ((Grammar.ofTokens ts).path false).all ts

/-- Reads what stands behind the key of an entry of an item. -/
def itemEntry (root : Option (List Token)) (key : Option String) :
    Reader (Option (List Token)) := do
  if key = some "crate" then
    let (text, suffix) ← entryText "crate"
    let path ← readPath text
    if suffix.isEmpty then return some path else throw (.suffix (String.ofList suffix))
  else
    passOver
    return root

/-- The path that the attributes of an item give to the library, if they do. -/
def rootOfAttributes (attributes : List (List Token)) :
    Except Fault (Option (List Token)) :=
  readAttributes itemEntry none attributes

end Fixture.Derive
