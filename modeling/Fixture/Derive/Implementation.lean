import Fixture.Derive.Attribute
import Fixture.Text.Lowercase
import Fixture.Text.Quoted

/-! # Implementations

    What is derived for a structure: under which names its fields are listed,
    which field a name is looked up to, and what is required of its parameters.
    A name is looked up by its lower-case form, and the first field in the order
    of the definition has it. -/

namespace Fixture.Derive

/-- A field as names are looked up to it. -/
structure Arm where
  /-- The lower-case name of the field. -/
  key : String
  /-- The name of the field in its structure. -/
  field : String
  type : List Token
  /-- The field takes no values. -/
  skipped : Bool

/-- What is derived for a structure. -/
structure Implementation where
  /-- The path of the library. -/
  root : List Token
  target : String
  generics : Generics
  arms : List Arm

/-- A word without the mark that it is no keyword. -/
def plainName (name : String) : List Char :=
  match name.toList with
  | 'r' :: '#' :: rest => rest
  | s => s

namespace Arm

/-- A field is found under its own name or the one it was given instead. -/
def ofField (f : FieldItem) : Except Fault Arm := do
  let o ← FieldOptions.ofAttributes f.attributes
  let name := o.renamed.getD (plainName f.name)
  .ok ⟨String.ofList (Text.lowercase name), f.name, f.type, o.skipped⟩

end Arm

namespace Implementation

/-- A path that does not depend on where it stands. -/
def absolute (segments : List String) : List Token :=
  segments.flatMap fun s => [Token.sign "::", Token.word s]

/-- The path of the library unless the item gives another. -/
def standardRoot : List Token := absolute ["tagbind"]

/-- What is derived for an item.  The attributes of the item are looked at
    first, then what kind of item it is, then its fields. -/
def ofItem (item : Item) : Except Fault Implementation := do
  let root ← rootOfAttributes item.attributes
  match item.body with
  | .other => .error .notStructure
  | .unnamed => .error .unnamedFields
  | .fields fields => do
      let arms ← fields.mapM Arm.ofField
      .ok ⟨root.getD standardRoot, item.name, item.generics, arms⟩

/-- The fields that take values. -/
def settable (i : Implementation) : List Arm := i.arms.filter fun a => !a.skipped

/-- The names that fields are listed under. -/
def names (i : Implementation) : List String := i.settable.map Arm.key

/-- What is required of the type of a field that takes values. -/
def requirement (i : Implementation) (a : Arm) : List Token :=
  a.type ++ Token.sign ":" :: i.root ++ absolute ["FromFixture"]

/-- What is required: the item's own requirements, and those of its fields if
    it has parameters that stand for types. -/
def requirements (i : Implementation) : Parts :=
  let own := i.generics.requirements
  let added := if i.generics.hasTypes then i.settable.map i.requirement else []
  if added = [] then own else ⟨own.parts ++ added, false⟩

/-! ## Tokens of the parts -/

def comma : Token := Token.sign ","

def quotedName (s : String) : Token := Token.quoted (Text.Quoted.literal s.toList)

/-- The type of names that are known in advance. -/
def staticText : List Token := [Token.sign "&", .lifetime "'static", .word "str"]

/-- A copy of a name. -/
def owned (name : String) : List Token :=
  absolute ["std", "borrow", "ToOwned", "to_owned"] ++ [Token.parenthesized [.word name]]

/-- The fault `kind` of a name. -/
def refusal (i : Implementation) (kind : String) : List Token :=
  let entry (label : String) : List Token :=
    .word label :: Token.sign ":" :: owned (if label = "field" then "name" else label) ++ [comma]
  absolute ["core", "result", "Result", "Err"]
    ++ [Token.parenthesized
        (i.root ++ absolute ["BindError", kind]
          ++ [Token.braced (entry "field" ++ entry "target")])]

/-- What is done for a field whose name was bound. -/
def outcome (i : Implementation) (a : Arm) : List Token :=
  if a.skipped then i.refusal "FieldNotSettable"
  else
    i.root ++ absolute ["__private", "bind_field"]
      ++ [Token.parenthesized
          [Token.sign "&", .word "mut", .word "self", Token.sign ".", .word a.field, comma,
            .word "name", comma, .word "target", comma, .word "value"]]

/-- The lookup of a field. -/
def armTokens (i : Implementation) (a : Arm) : List Token :=
  [.word "if", .word "lowered", Token.sign "==", quotedName a.key,
    Token.braced (.word "return" :: i.outcome a ++ [Token.sign ";"])]

/-- A value that is not used otherwise. -/
def unused (ts : List Token) : List Token :=
  [.word "let", .word "_", Token.sign "="] ++ ts ++ [Token.sign ";"]

/-! ## Tokens of the functions -/

/-- The names that fields are listed under. -/
def namesFunction (i : Implementation) : List Token :=
  [.word "fn", .word "field_names", Token.parenthesized [], Token.sign "->", Token.sign "&",
    .lifetime "'static", Token.bracketed staticText,
    Token.braced
      [Token.sign "&",
        Token.bracketed (Parts.tokens ⟨i.names.map fun n => [quotedName n], false⟩)]]

/-- The lower-case form of the name and the name of the structure. -/
def bindings (i : Implementation) : List Token :=
  [.word "let", .word "lowered", Token.sign "=", .word "name", Token.sign ".",
    .word "to_lowercase", Token.parenthesized [], Token.sign ";",
    .word "let", .word "target", Token.sign "=", Token.sign "<", .word "Self", .word "as"]
    ++ i.root ++ absolute ["Bindable"] ++ [Token.sign ">"] ++ absolute ["target_name"]
    ++ [Token.parenthesized [], Token.sign ";"]

/-- Binding a value to the field of a name. -/
def bindFunction (i : Implementation) : List Token :=
  [.word "fn", .word "bind",
    Token.parenthesized
      ([Token.sign "&", .word "mut", .word "self", comma,
        .word "name", Token.sign ":", Token.sign "&", .word "str", comma,
        .word "value", Token.sign ":", Token.sign "&"]
        ++ i.root ++ absolute ["Value"] ++ [comma]),
    Token.sign "->"]
    ++ i.root ++ absolute ["BindResult"]
    ++ [Token.sign "<", Token.parenthesized [], Token.sign ">",
      Token.braced
        (i.bindings
          ++ (if i.settable.isEmpty then unused [.word "value"] else [])
          ++ (if i.arms.isEmpty then unused [Token.sign "&", .word "lowered"] else [])
          ++ i.arms.flatMap i.armTokens
          ++ i.refusal "FieldLookup")]

/-- The name of the structure. -/
def targetFunction (i : Implementation) : List Token :=
  [.word "fn", .word "target_name", Token.parenthesized [], Token.sign "->"]
    ++ staticText ++ [Token.braced [quotedName i.target]]

/-- The implementation as tokens. -/
def tokens (i : Implementation) : List Token :=
  .word "impl" :: Parameter.angles Parameter.introduced i.generics.parameters
    ++ i.root ++ absolute ["Bindable"]
    ++ [.word "for", .word i.target]
    ++ Parameter.angles Parameter.name i.generics.parameters
    ++ Generics.whereClause i.requirements
    ++ [Token.braced (i.namesFunction ++ i.bindFunction ++ i.targetFunction)]

end Implementation

/-- The text of what is derived for the definition in a text. -/
def expand (source : List Char) : Except Fault String :=
  match Token.read source with
  | none => .error .notTokens
  | some ts => do
      let item ← Item.ofTokens ts
      let i ← Implementation.ofItem item
      .ok (Token.text i.tokens)

end Fixture.Derive
