import Fixture.Derive.Grammar.Basic

/-! # Types

    Paths with their arguments, bounds, and types.  Arguments in angle brackets
    are shown with lifetimes in front. -/

namespace Fixture.Derive.Grammar

open Token (startsWith follows startsWithWord startsWithAny startsWithGroup startsWithName
  startsWithLifetime startsWithLiteral dropNames?)
open Reader

/-! ## Paths -/

/-- A path begins here. -/
def startsPath (ts : List Token) : Bool :=
  startsWithName ts || startsWithAny ["super", "self", "Self", "crate"] ts
    || startsWith "::" ts || startsWith "<" ts

/-- Arguments in angle brackets. -/
def angles (argument : Reader (Bool × List Token)) : Reader (List Token) := do
  let opening ← marks "<"
  let parts ← between (startsWith ">") argument
  let closing ← marks ">"
  let arguments := parts.map fun ((ofLifetime, ts), comma) => ⟨ofLifetime, ts, comma⟩
  return opening ++ lifetimesFirst arguments ++ closing

/-- A segment of a path.  In an expression its arguments have `::` in front. -/
def segment (g : Grammar) (inExpression : Bool) : Reader (List Token) := do
  if ← ahead (startsWithAny ["super", "self", "crate", "try"]) then anyToken
  else
    let name ← if ← ahead (startsWithWord "Self") then anyToken else name
    let argumentsAhead (ts : List Token) : Bool :=
      (!inExpression && startsWith "<" ts && !startsWith "<=" ts)
        || follows "::" (startsWith "<") ts
    if ← ahead argumentsAhead then
      let colons ← marks? "::"
      let arguments ← angles g.argument
      return name ++ colons ++ arguments
    else return name

/-- Another segment follows. -/
def startsSegment (ts : List Token) : Bool :=
  startsWith "::" ts && !follows "::" (startsWithGroup .parenthesis) ts

/-- The segments of a path behind the first. -/
def segments (g : Grammar) (inExpression : Bool) : Reader (List Token) :=
  many startsSegment do
    let colons ← marks "::"
    let next ← g.segment inExpression
    return colons ++ next

def path (g : Grammar) (inExpression : Bool) : Reader (List Token) := do
  let colons ← marks? "::"
  let first ← g.segment inExpression
  let others ← g.segments inExpression
  return colons ++ first ++ others

/-- A path that may begin with a type in angle brackets. -/
def qualifiedPath (g : Grammar) (inExpression : Bool) : Reader (List Token) := do
  if ← ahead (startsWith "<") then
    let opening ← marks "<"
    let type ← g.type true
    let role ← word? "as"
    let bound ← if role.isEmpty then pure [] else g.path false
    let closing ← marks ">"
    let colons ← marks "::"
    let first ← g.segment inExpression
    let others ← g.segments inExpression
    return opening ++ type ++ role ++ bound ++ closing ++ colons ++ first ++ others
  else g.path inExpression

/-- The path ends in a name. -/
def endsInName (path : List Token) : Bool :=
  match path.getLast? with
  | some (.word _) => true
  | _ => false

/-- What a function gives back. -/
def returned (g : Grammar) (plus : Bool) : Reader (List Token) := do
  if ← ahead (startsWith "->") then
    let arrow ← marks "->"
    let type ← g.type plus
    return arrow ++ type
  else return []

/-- A path, or one with the types of what a function takes behind it. -/
def withInputs (g : Grammar) (path : List Token) : Reader (List Token) := do
  let inputsAhead (ts : List Token) : Bool :=
    startsWithGroup .parenthesis ts || follows "::" (startsWithGroup .parenthesis) ts
  if endsInName path && inputsAhead (← get) then
    let _ ← marks? "::"
    let inputs ← group .parenthesis (list (g.type true))
    let output ← g.returned false
    return path ++ inputs ++ output
  else return path

/-! ## Bounds -/

/-- The lifetimes that something holds for. -/
def binder (g : Grammar) : Reader (List Token) := do
  if ← ahead (startsWithWord "for") then
    let intro ← word "for"
    let opening ← marks "<"
    let lifetimes ← commas (startsWith ">") do
      let attributes ← g.attributes
      let lifetime ← lifetime
      return attributes ++ lifetime
    let closing ← marks ">"
    return intro ++ opening ++ lifetimes ++ closing
  else return []

/-- A trait that is required. -/
def traitBound (g : Grammar) : Reader (List Token) := do
  let binder ← g.binder
  let constness ← if ← ahead (startsWithGroup .bracket) then anyToken else wordOf ["const"]
  let modifier ← marks? "?"
  let inner ← if binder.isEmpty then g.binder else pure []
  let path ← g.path false
  let trait ← g.withInputs path
  return constness ++ modifier ++ binder ++ inner ++ trait

/-- What is captured by a type that is not named. -/
def capture : Reader (List Token) := do
  let intro ← word "use"
  let captured ← angles do
    if ← ahead startsWithLifetime then return (true, ← anyToken)
    else return (false, ← anyToken)
  return intro ++ captured

def bound (g : Grammar) : Reader (List Token) := do
  if ← ahead startsWithLifetime then lifetime
  else if ← ahead (startsWithWord "use") then capture
  else if ← ahead (startsWithGroup .parenthesis) then group .parenthesis g.traitBound
  else g.traitBound

/-- A bound begins here. -/
def startsBound : List Token → Bool
  | .word _ :: _ => true
  | .lifetime _ :: _ => true
  | .group d _ :: _ => d = .parenthesis
  | ts => startsWith "::" ts || startsWith "?" ts

/-- Bounds behind another one. -/
def moreBounds (g : Grammar) : Reader (List Token) :=
  many (startsWith "+") do
    let plus ← marks "+"
    if ← ahead startsBound then
      let next ← g.bound
      return plus ++ next
    else return plus

/-- One bound, or several if they may be added. -/
def bounds (g : Grammar) (plus : Bool) : Reader (List Token) := do
  let first ← g.bound
  let others ← if plus then g.moreBounds else pure []
  return first ++ others

/-! ## Arguments -/

/-- A value that is known in advance, as an argument. -/
def constantArgument (g : Grammar) : Reader (List Token) := do
  if ← ahead startsWithLiteral then literal
  else if ← ahead (startsWithGroup .brace) then g.block
  else name

/-- A constant argument is certain to stand here. -/
def startsConstant (ts : List Token) : Bool :=
  startsWithLiteral ts || startsWithGroup .brace ts

/-- A type that begins with a path. -/
def typeAfterPath (g : Grammar) (plus : Bool) (path : List Token) : Reader (List Token) := do
  let bangAhead (ts : List Token) : Bool := startsWith "!" ts && !startsWith "!=" ts
  let path ← g.withInputs path
  if endsInName path && bangAhead (← get) then
    let bang ← marks "!"
    let input ← anyGroup
    return path ++ bang ++ input
  else
    let others ← if plus then g.moreBounds else pure []
    return path ++ others

/-- What stands behind the name of a type that belongs to a trait: the type it
    is, or what is required of it.  Otherwise the name begins a type. -/
def associated (g : Grammar) (name : List Token) : Reader (List Token) := do
  if ← ahead (startsWith "=") then
    let sign ← marks "="
    let value ← if ← ahead startsConstant then g.constantArgument else g.type true
    return name ++ sign ++ value
  else if ← ahead fun ts => startsWith ":" ts && !startsWith "::" ts then
    let colon ← marks ":"
    let bounds ← sum (fun ts => startsWith "," ts || startsWith ">" ts) g.bound
    return name ++ colon ++ bounds
  else
    let others ← g.segments false
    g.typeAfterPath true (name ++ others)

/-- An argument in angle brackets, and whether it is a lifetime. -/
def readArgument (g : Grammar) : Reader (Bool × List Token) := do
  let ts ← get
  if startsWithLifetime ts && !startsWith "+" (ts.drop 1) then
    return (true, ← lifetime)
  else if startsConstant ts then
    return (false, ← g.constantArgument)
  else if startsWithName ts || startsWithWord "Self" ts then
    let name ← g.segment false
    return (false, ← g.associated name)
  else
    return (false, ← g.type true)

/-! ## Types -/

/-- Parts in parentheses.  The first decides whether commas follow. -/
def tuple (item : Reader (List Token)) : Reader (List Token) :=
  group .parenthesis do
    if ← ahead List.isEmpty then return []
    let first ← item
    if ← ahead (startsWith ",") then
      let comma ← marks ","
      let others ← list item
      return first ++ comma ++ others
    else return first

/-- What a function takes: a type, with a name or not, or any number of further
    values. -/
def functionInput (g : Grammar) : Reader (List Token) := do
  let nameAhead (ts : List Token) : Bool :=
    match ts with
    | .word w :: rest =>
        (w ∉ reservedWords || w = "_" || w = "self") && startsWith ":" rest
          && !startsWith "::" rest
    | _ => false
  let attributes ← g.attributes
  let name ←
    if ← ahead nameAhead then do
      let name ← anyToken
      let colon ← marks ":"
      pure (name ++ colon)
    else pure []
  let type ← if ← ahead (startsWith "...") then marks "..." else g.type true
  return attributes ++ name ++ type

/-- The name of the convention that a function is called by. -/
def convention : Reader (List Token) := do
  let intro ← word? "extern"
  if intro.isEmpty then return []
  match ← get with
  | .literal _ :: _ =>
      let name ← anyToken
      return intro ++ name
  | _ => return intro

def functionType (g : Grammar) : Reader (List Token) := do
  let safety ← word? "unsafe"
  let convention ← convention
  let intro ← word "fn"
  let inputs ← group .parenthesis (list g.functionInput)
  let output ← g.returned false
  return safety ++ convention ++ intro ++ inputs ++ output

/-- A type in parentheses, or several, to which bounds may be added. -/
def parenthesizedType (g : Grammar) (plus : Bool) : Reader (List Token) := do
  let item : Reader (List Token) := do
    if ← ahead (startsWith "?") then g.traitBound else g.type true
  let inner ← tuple item
  let others ← if plus then g.moreBounds else pure []
  return inner ++ others

/-- What a type may begin with. -/
def typeBeginnings : String :=
  "one of: `for`, parentheses, `fn`, `unsafe`, `extern`, identifier, `::`, `<`, `dyn`, "
    ++ "square brackets, `*`, `&`, `!`, `impl`, `_`, lifetime"

/-- A type, behind the lifetimes it holds for. -/
def boundType (g : Grammar) (plus : Bool) : Reader (List Token) := do
  let ts ← get
  if startsWithGroup .parenthesis ts then g.parenthesizedType plus
  else if startsWithAny ["fn", "unsafe", "extern"] ts then g.functionType
  else if startsPath ts then
    let path ← g.qualifiedPath false
    g.typeAfterPath plus path
  else if startsWithWord "dyn" ts then
    let intro ← word "dyn"
    let star ← marks? "*"
    let bounds ← g.bounds plus
    return intro ++ star ++ bounds
  else if startsWithGroup .bracket ts then
    group .bracket do
      let element ← g.type true
      if ← ahead (startsWith ";") then
        let semicolon ← marks ";"
        let length ← g.expression true
        return element ++ semicolon ++ length
      else return element
  else if startsWith "*" ts then
    let star ← marks "*"
    let mutability ←
      if ← ahead (startsWithAny ["const", "mut"]) then anyToken
      else missing "`const` or `mut`"
    let target ← g.type false
    return star ++ mutability ++ target
  else if startsWith "&" ts then
    let sign ← marks "&"
    let lifetime ← lifetime?
    let mutability ← word? "mut"
    let target ← g.type false
    return sign ++ lifetime ++ mutability ++ target
  else if startsWith "!" ts && !startsWith "!=" ts then marks "!"
  else if startsWithWord "impl" ts then
    let intro ← word "impl"
    let bounds ← g.bounds plus
    return intro ++ bounds
  else if startsWithWord "_" ts then anyToken
  else if startsWithLifetime ts then g.bounds true
  else missing typeBeginnings

/-- What a type may begin with behind the lifetimes it holds for. -/
def boundBeginnings : String :=
  "one of: identifier, `fn`, `unsafe`, `extern`, `super`, `self`, `Self`, `crate`"

/-- A type may stand behind the lifetimes it holds for. -/
def startsBoundType (ts : List Token) : Bool :=
  startsWithName ts
    || startsWithAny ["fn", "unsafe", "extern", "super", "self", "Self", "crate"] ts

/-- A type, to which bounds may be added or not. -/
def readType (g : Grammar) (plus : Bool) : Reader (List Token) := do
  let binder ← g.binder
  if !binder.isEmpty && !startsBoundType (← get) then missing boundBeginnings
  else
    let type ← g.boundType plus
    return binder ++ type

end Fixture.Derive.Grammar
