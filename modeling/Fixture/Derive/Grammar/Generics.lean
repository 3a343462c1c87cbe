import Fixture.Derive.Grammar.Type

/-! # Generics

    The parameters of an item and what is required of them.  Parameters are
    shown with lifetimes in front, as arguments are. -/

namespace Fixture.Derive

/-- What a parameter stands for. -/
inductive ParameterKind where
  | lifetime
  | type
  | constant
deriving DecidableEq, Repr

/-- A parameter of an item. -/
structure Parameter where
  kind : ParameterKind
  attributes : List Token
  name : List Token
  /-- What stands behind the colon: bounds, or the type of a constant. -/
  bounds : List Token
  /-- What the parameter is unless it is given, with the sign in front. -/
  default : List Token
  /-- A comma stands behind the parameter. -/
  comma : Bool

/-- The parameters of an item, and its own requirements. -/
structure Generics where
  parameters : List Parameter
  requirements : Parts

namespace Parameter

/-- The parameter as it is introduced, without its default. -/
def introduced (p : Parameter) : List Token :=
  let bounds := if p.bounds.isEmpty then [] else Token.sign ":" :: p.bounds
  match p.kind with
  | .constant => p.attributes ++ Token.word "const" :: p.name ++ bounds
  | _ => p.attributes ++ p.name ++ bounds

/-- Parameters in angle brackets; there are none without parameters. -/
def angles (spell : Parameter → List Token) (ps : List Parameter) : List Token :=
  let part (p : Parameter) : Argument := ⟨p.kind = .lifetime, spell p, p.comma⟩
  if ps.isEmpty then []
  else Token.sign "<" :: lifetimesFirst (ps.map part) ++ [Token.sign ">"]

end Parameter

namespace Generics

/-- The requirements, if there are any. -/
def whereClause (requirements : Parts) : List Token :=
  if requirements.parts.isEmpty then [] else .word "where" :: requirements.tokens

/-- The generics have a parameter that stands for a type. -/
def hasTypes (g : Generics) : Bool := g.parameters.any fun p => p.kind = .type

end Generics

namespace Grammar

open Token (startsWith follows startsWithWord startsWithAny startsWithGroup startsWithName
  startsWithLifetime startsWithLiteral)
open Reader

/-! ## Reading -/

/-- What stands behind a colon, if one stands here. -/
def behindColon (inner : Reader (List Token)) : Reader (List Token) := do
  let colon ← marks? ":"
  if colon.isEmpty then return [] else inner

/-- What stands behind an equals sign, with the sign. -/
def behindEquals (inner : Reader (List Token)) : Reader (List Token) := do
  let sign ← marks? "="
  if sign.isEmpty then return []
  let value ← inner
  return sign ++ value

/-- What the beginning of a parameter may be. -/
def parameterBeginnings : String := "one of: lifetime, identifier, `const`, `_`"

/-- Bounds of a parameter end here. -/
def endsBounds (ts : List Token) : Bool :=
  startsWith "," ts || startsWith ">" ts || startsWith "=" ts

def parameter (g : Grammar) : Reader Parameter := do
  let attributes ← g.attributes
  let ts ← get
  if startsWithLifetime ts then
    let name ← lifetime
    let bounds ← behindColon (sum endsBounds lifetime)
    return ⟨.lifetime, attributes, name, bounds, [], false⟩
  else if startsWithWord "const" ts then
    let _ ← word "const"
    let name ← name
    let _ ← marks ":"
    let type ← g.type true
    let default ← behindEquals g.constantArgument
    return ⟨.constant, attributes, name, type, default, false⟩
  else if startsWithName ts || startsWithWord "_" ts then
    let name ← anyToken
    let bounds ← behindColon (sum endsBounds g.bound)
    let default ← behindEquals (g.type true)
    return ⟨.type, attributes, name, bounds, default, false⟩
  else missing parameterBeginnings

/-- The parameters in angle brackets, if any stand here. -/
def parameters (g : Grammar) : Reader (List Parameter) := do
  if ← ahead (startsWith "<") then
    let _ ← marks "<"
    let ps ← between (startsWith ">") g.parameter
    let _ ← marks ">"
    return ps.map fun (p, comma) => { p with comma := comma }
  else return []

/-- A colon that is not part of a path. -/
def startsWithColon (ts : List Token) : Bool := startsWith ":" ts && !startsWith "::" ts

/-- Requirements end here. -/
def endsRequirements (ts : List Token) : Bool :=
  ts.isEmpty || startsWithGroup .brace ts || startsWith ";" ts || startsWithColon ts
    || startsWith "=" ts

/-- What is required of a lifetime or of a type. -/
def requirement (g : Grammar) : Reader (List Token) := do
  let stop (ts : List Token) : Bool := endsRequirements ts || startsWith "," ts
  let ts ← get
  if startsWithLifetime ts && startsWith ":" (ts.drop 1) then
    let subject ← lifetime
    let colon ← marks ":"
    let bounds ← sum stop lifetime
    return subject ++ colon ++ bounds
  else
    let binder ← g.binder
    let subject ← g.type true
    let colon ← marks ":"
    let bounds ← sum stop g.bound
    return binder ++ subject ++ colon ++ bounds

/-- The requirements of an item, if it has any. -/
def requirements (g : Grammar) : Reader Parts := do
  let intro ← word? "where"
  if intro.isEmpty then return ⟨[], false⟩
  let rs ← between endsRequirements g.requirement
  return ⟨rs.map Prod.fst, (rs.getLast?.map Prod.snd).getD false⟩

/-- Parameters of an item that is inside of another, in full. -/
def shownParameters (g : Grammar) : Reader (List Token) := do
  let ps ← g.parameters
  return Parameter.angles (fun p => p.introduced ++ p.default) ps

/-- Requirements of an item that is inside of another. -/
def shownRequirements (g : Grammar) : Reader (List Token) := do
  let rs ← g.requirements
  return Generics.whereClause rs

end Grammar

end Fixture.Derive
