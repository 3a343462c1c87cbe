import Fixture.Derive.Grammar
import Fixture.Derive.Lexeme

/-! # Items

    The item that a definition makes: its attributes, its name, its parameters
    with what is required of them, and its fields. -/

namespace Fixture.Derive

/-- A named field. -/
structure FieldItem where
  /-- The contents of the attributes. -/
  attributes : List (List Token)
  name : String
  type : List Token

/-- What an item consists of. -/
inductive Body where
  | fields (fields : List FieldItem)
  /-- A structure whose fields, if any, have no names. -/
  | unnamed
  /-- No structure at all. -/
  | other

/-- A definition. -/
structure Item where
  attributes : List (List Token)
  name : String
  generics : Generics
  body : Body

/-! ## Reading -/

/-- The contents of the attributes in front of tokens, and what is behind. -/
def splitAttributes : List Token → List (List Token) × List Token
  | .mark m j :: .group .bracket inner :: ts =>
      if m = "#" then
        let (others, rest) := splitAttributes ts
        (inner :: others, rest)
      else ([], .mark m j :: .group .bracket inner :: ts)
  | ts => ([], ts)

namespace Grammar

open Token (startsWithWord)
open Reader

/-- The contents of the attributes that stand here, as they are spelled. -/
def attributeContents : Reader (List (List Token)) := do
  let (contents, rest) := splitAttributes (← get)
  set rest
  return contents

/-- A word that is a name, by itself. -/
def nameText : Reader String := do
  let ts ← name
  return Token.text ts

/-- A field with its name. -/
def fieldItem (g : Grammar) : Reader FieldItem := do
  let attributes ← attributeContents
  let _ ← visibility
  let name ← if ← ahead (startsWithWord "_") then do
      let _ ← anyToken
      pure "_"
    else nameText
  let _ ← marks ":"
  let type ← g.type true
  return ⟨attributes, name, type⟩

/-- The fields in braces. -/
def fieldItems (g : Grammar) (inner : List Token) : Except Fault (List FieldItem) :=
  Reader.all (do return (← between List.isEmpty g.fieldItem).map Prod.fst) inner

/-- The end of a structure whose fields have no names; `what` may stand here. -/
def unnamedEnd (what : String) : Reader Body := do
  if ← ahead (Token.startsWith ";") then
    let _ ← marks ";"
    return .unnamed
  else missing what

/-- The requirements of a structure and its body.  Without names for the fields
    the requirements stand behind them. -/
def structureBody (g : Grammar) : Reader (Parts × Body) := do
  let required ← ahead (startsWithWord "where")
  let before ← g.requirements
  match ← get with
  | .group .brace inner :: rest =>
      let fields ← g.fieldItems inner
      set rest
      return (before, .fields fields)
  | .group .parenthesis _ :: _ =>
      if required then missing "curly braces or `;`"
      else
        let _ ← g.fieldGroup
        let required ← ahead (startsWithWord "where")
        let behind ← g.requirements
        return (behind, ← unnamedEnd (if required then "`;`" else "`where` or `;`"))
  | _ =>
      return (before, ← unnamedEnd
        (if required then "curly braces or `;`"
        else "one of: `where`, parentheses, curly braces, `;`"))

/-- The body of an item that is no structure. -/
def otherBody (g : Grammar) (part : Reader (List Token)) : Reader Generics := do
  let parameters ← g.parameters
  let requirements ← g.requirements
  let _ ← group .brace (list part)
  return ⟨parameters, requirements⟩

/-- What an item may begin with. -/
def itemBeginnings : String := "one of: `struct`, `enum`, `union`"

def itemDefinition (g : Grammar) : Reader Item := do
  let attributes ← attributeContents
  let _ ← visibility
  if ← ahead (startsWithWord "struct") then
    let _ ← anyToken
    let name ← nameText
    let parameters ← g.parameters
    let (requirements, body) ← g.structureBody
    return ⟨attributes, name, ⟨parameters, requirements⟩, body⟩
  else if ← ahead (startsWithWord "enum") then
    let _ ← anyToken
    let name ← nameText
    let generics ← g.otherBody g.variant
    return ⟨attributes, name, generics, .other⟩
  else if ← ahead (startsWithWord "union") then
    let _ ← anyToken
    let name ← nameText
    let generics ← g.otherBody g.namedField
    return ⟨attributes, name, generics, .other⟩
  else missing itemBeginnings

end Grammar

/-- The item that tokens make. -/
def Item.ofTokens (ts : List Token) : Except Fault Item :=
  (Grammar.ofTokens ts).itemDefinition.all ts

end Fixture.Derive
