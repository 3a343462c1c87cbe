import Fixture.Derive.Grammar.Type

/-! # Patterns

    What a value is matched against.  Two references in a row are shown as
    such, and not as the operator they are spelled like. -/

namespace Fixture.Derive.Grammar

open Token (startsWith follows startsWithWord startsWithAny startsWithGroup startsWithName
  startsWithLifetime startsWithLiteral)
open Reader

/-- An alternative of a pattern follows. -/
def startsAlternative (ts : List Token) : Bool :=
  startsWith "|" ts && !startsWith "||" ts && !startsWith "|=" ts

/-- A pattern with its alternatives. -/
def alternatives (g : Grammar) : Reader (List Token) := do
  let bar ← marks? "|"
  let first ← g.pattern
  let others ← many startsAlternative do
    let bar ← marks "|"
    let next ← g.pattern
    return bar ++ next
  return bar ++ first ++ others

/-- What stands between the bounds of a range.  Three dots are shown as two and
    an equals sign. -/
def rangeMarks : Reader (List Token) := do
  let limits ← marksOf ["..=", "...", ".."]
  return if limits == [.mark "..." false] then [.mark "..=" false] else limits

/-- Nothing stands behind the marks of a range. -/
def endsRange (ts : List Token) : Bool :=
  ts.isEmpty || startsWith "|" ts || startsWith "=" ts
    || (startsWith ":" ts && !startsWith "::" ts) || startsWith "," ts || startsWith ";" ts
    || startsWithWord "if" ts

/-- A bound of a range, if it has one. -/
def rangeBound (g : Grammar) : Reader (List Token) := do
  if ← ahead endsRange then return []
  else if ← ahead startsWithLiteral then literal
  else if ← ahead (startsWithWord "const") then
    let intro ← word "const"
    let block ← g.block
    return intro ++ block
  else g.qualifiedPath true

/-- The rest of a range behind its first bound, if it is one. -/
def rangeEnd (g : Grammar) : Reader (List Token) := do
  if ← ahead (startsWith "..") then
    let limits ← rangeMarks
    let last ← g.rangeBound
    return limits ++ last
  else return []

/-- A field in a pattern: by itself, or with the pattern of its value. -/
def fieldPattern (g : Grammar) : Reader (List Token) := do
  let attributes ← g.attributes
  if ← ahead (startsWith "..") then
    let rest ← marks ".."
    return attributes ++ rest
  let mode ← wordOf ["box"]
  let reference ← wordOf ["ref"]
  let mutability ← wordOf ["mut"]
  let name ← anyToken
  let colon ← marks? ":"
  let value ← if colon.isEmpty then pure [] else g.alternatives
  return attributes ++ mode ++ reference ++ mutability ++ name ++ colon ++ value

/-- A pattern that begins with a path. -/
def pathPattern (g : Grammar) : Reader (List Token) := do
  let path ← g.qualifiedPath true
  let ts ← get
  if startsWith "!" ts && !startsWith "!=" ts then
    let bang ← marks "!"
    let input ← anyGroup
    return path ++ bang ++ input
  else if startsWithGroup .brace ts then
    let fields ← group .brace (list g.fieldPattern)
    return path ++ fields
  else if startsWithGroup .parenthesis ts then
    let parts ← group .parenthesis (list g.alternatives)
    return path ++ parts
  else
    let rest ← g.rangeEnd
    return path ++ rest

/-- A name that the value is bound to, and what it has to match. -/
def namePattern (g : Grammar) : Reader (List Token) := do
  let reference ← wordOf ["ref"]
  let mutability ← wordOf ["mut"]
  let name ← if ← ahead (startsWithWord "self") then anyToken else name
  let sign ← marks? "@"
  let inner ← if sign.isEmpty then pure [] else g.pattern
  return reference ++ mutability ++ name ++ sign ++ inner

/-- A pattern begins with a path and not with a name to bind. -/
def startsPathPattern (ts : List Token) : Bool :=
  match ts with
  | .word w :: rest =>
      if w ∈ ["Self", "super", "crate"] then true
      else if w = "self" then startsWith "::" rest
      else
        startsWithName ts && (startsWith "::" rest || startsWith "!" rest
          || startsWithGroup .brace rest || startsWithGroup .parenthesis rest
          || startsWith ".." rest)
  | _ => startsWith "::" ts || startsWith "<" ts

/-- A pattern without alternatives. -/
def readPattern (g : Grammar) : Reader (List Token) := do
  let ts ← get
  if startsPathPattern ts then g.pathPattern
  else if startsWithWord "_" ts then anyToken
  else if startsWithWord "box" ts then
    let intro ← word "box"
    let inner ← g.pattern
    return intro ++ inner
  else if startsWithLiteral ts || startsWithWord "const" ts then
    let first ← g.rangeBound
    let rest ← g.rangeEnd
    return first ++ rest
  else if startsWithAny ["ref", "mut", "self"] ts || startsWithName ts then g.namePattern
  else if startsWith "&" ts then
    let sign ← marks "&"
    let mutability ← word? "mut"
    let inner ← g.pattern
    return sign ++ mutability ++ inner
  else if startsWithGroup .parenthesis ts then tuple g.alternatives
  else if startsWithGroup .bracket ts then group .bracket (list g.alternatives)
  else if startsWith ".." ts then g.rangeEnd
  else missing "pattern"

end Fixture.Derive.Grammar
