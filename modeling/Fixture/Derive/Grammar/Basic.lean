import Fixture.Derive.Reader

/-! # Grammar

    Types, patterns and expressions of Rust contain each other.  A `Grammar`
    has a reader for each of them, and what contains them is read by functions
    of a grammar.  Tying the knot between them is left to the end. -/

namespace Fixture.Derive

/-- Readers of what is inside of something else. -/
structure Grammar where
  /-- A type, to which bounds may be added or not. -/
  type : Bool → Reader (List Token)
  /-- An argument in angle brackets, and whether it is a lifetime. -/
  argument : Reader (Bool × List Token)
  /-- An expression, in which fields may stand behind a path or not. -/
  expression : Bool → Reader (List Token)
  /-- An expression without operators between its parts. -/
  operand : Bool → Reader (List Token)
  /-- An operand without marks in front and parts behind. -/
  atom : Bool → Reader (List Token)
  /-- A pattern without alternatives. -/
  pattern : Reader (List Token)
  /-- Statements in braces. -/
  block : Reader (List Token)

namespace Grammar

open Token (startsWith follows startsWithWord startsWithAny startsWithGroup startsWithName
  startsWithLifetime startsWithLiteral dropNames?)
open Reader

/-! ## Attributes -/

/-- A path of words. -/
def plainPath : Reader (List Token) := do
  let colons ← marks? "::"
  let first ← anyWord
  let others ← many (startsWith "::") do
    let colons ← marks "::"
    let next ← anyWord
    return colons ++ next
  return colons ++ first ++ others
where
  anyWord : Reader (List Token) := do
    match ← get with
    | .word _ :: _ => anyToken
    | _ => missing "identifier"

/-- What an attribute says: a path, and a group or the value behind it. -/
def attributeContent (g : Grammar) : Reader (List Token) := do
  let path ← plainPath
  if ← ahead (startsWith "=") then
    let sign ← marks "="
    let value ← g.expression true
    return path ++ sign ++ value
  else if ← ahead fun ts => !ts.isEmpty then
    let content ← anyGroup
    return path ++ content
  else return path

/-- An attribute of what follows. -/
def startsAttribute : List Token → Bool
  | .mark "#" _ :: .group .bracket _ :: _ => true
  | _ => false

/-- An attribute of what it stands in. -/
def startsInnerAttribute : List Token → Bool
  | .mark "#" _ :: .mark "!" _ :: .group .bracket _ :: _ => true
  | _ => false

/-- The attributes of what follows. -/
def attributes (g : Grammar) : Reader (List Token) :=
  many startsAttribute do
    let hash ← marks "#"
    let content ← group .bracket g.attributeContent
    return hash ++ content

/-- The attributes of what they stand in. -/
def innerAttributes (g : Grammar) : Reader (List Token) :=
  many startsInnerAttribute do
    let hash ← marks "#"
    let bang ← marks "!"
    let content ← group .bracket g.attributeContent
    return hash ++ bang ++ content

end Grammar

end Fixture.Derive
