import Fixture.Derive.Grammar.Expression
import Fixture.Derive.Grammar.Generics

/-! # Statements

    What stands in a block: bindings, expressions, and items that are known
    inside of it only. -/

namespace Fixture.Derive.Grammar

open Token (startsWith follows startsWithWord startsWithAny startsWithGroup startsWithName
  startsWithLifetime startsWithLiteral)
open Reader

/-! ## Items -/

/-- Who sees an item. -/
def visibility : Reader (List Token) := do
  let intro ← word? "pub"
  if intro.isEmpty then return []
  let range ← if ← ahead (startsWithGroup .parenthesis) then anyToken else pure []
  return intro ++ range

/-- A type behind a colon, with the colon. -/
def ofType (g : Grammar) : Reader (List Token) := do
  let colon ← marks? ":"
  let type ← if colon.isEmpty then pure [] else g.type true
  return colon ++ type

/-- Bounds behind a colon, with the colon. -/
def shownBounds (g : Grammar) : Reader (List Token) := do
  let stop (ts : List Token) : Bool := endsRequirements ts || startsWithWord "where" ts
  let colon ← marks? ":"
  let bounds ← if colon.isEmpty then pure [] else sum stop g.bound
  return colon ++ bounds

/-- A value with a name: its type and what it is. -/
def valueItem (g : Grammar) : Reader (List Token) := do
  let intro ← anyToken
  let mutability ← word? "mut"
  let name ← anyToken
  let type ← g.ofType
  let value ← behindEquals (g.expression true)
  let semicolon ← marks ";"
  return intro ++ mutability ++ name ++ type ++ value ++ semicolon

/-- A type with a name. -/
def typeItem (g : Grammar) : Reader (List Token) := do
  let intro ← word "type"
  let name ← name
  let parameters ← g.shownParameters
  let bounds ← g.shownBounds
  let before ← g.shownRequirements
  let type ← behindEquals (g.type true)
  let behind ← g.shownRequirements
  let semicolon ← marks ";"
  return intro ++ name ++ parameters ++ bounds ++ before ++ type ++ behind ++ semicolon

/-- A tree of imported names; `fuel` bounds how deep groups are inside of each
    other. -/
def importTree : Nat → Reader (List Token)
  | 0 => missing "identifier"
  | fuel + 1 => do
      let colons ← marks? "::"
      let path ← many steps do
        let segment ← anyToken
        let colons ← marks "::"
        return segment ++ colons
      let ts ← get
      let last ←
        if startsWith "*" ts then marks "*"
        else if startsWithGroup .brace ts then group .brace (list (importTree fuel))
        else renamed
      return colons ++ path ++ last
where
  steps (ts : List Token) : Bool :=
    match ts with
    | .word _ :: rest => startsWith "::" rest
    | _ => false
  renamed : Reader (List Token) := do
    let name ← anyToken
    let sign ← word? "as"
    let other ← if sign.isEmpty then pure [] else anyToken
    return name ++ sign ++ other

def importItem : Reader (List Token) := do
  let intro ← word "use"
  let tree ← importTree (Token.sizeAll (← get))
  let semicolon ← marks ";"
  return intro ++ tree ++ semicolon

/-- What a function takes; the value it belongs to may have no type. -/
def functionParameter (g : Grammar) : Reader (List Token) := do
  let attributes ← g.attributes
  if ← ahead (startsWith "...") then
    let others ← marks "..."
    return attributes ++ others
  let receiver (ts : List Token) : Bool :=
    startsWithWord "self" ts || startsWordThen "mut" (startsWithWord "self") ts
  let referred (ts : List Token) : Bool :=
    receiver (if startsWithLifetime ts then ts.drop 1 else ts)
  if ← ahead (follows "&" referred) then
    let sign ← marks "&"
    let lifetime ← lifetime?
    let mutability ← word? "mut"
    let name ← anyToken
    return attributes ++ sign ++ lifetime ++ mutability ++ name
  else if ← ahead receiver then
    let mutability ← word? "mut"
    let name ← anyToken
    let type ← g.ofType
    return attributes ++ mutability ++ name ++ type
  else
    let pattern ← g.pattern
    let type ← g.ofType
    return attributes ++ pattern ++ type

/-- A function with its body. -/
def functionItem (g : Grammar) : Reader (List Token) := do
  let constness ← word? "const"
  let asyncness ← word? "async"
  let safety ← wordOf ["unsafe", "safe"]
  let convention ← convention
  let intro ← word "fn"
  let name ← name
  let parameters ← g.shownParameters
  let inputs ← group .parenthesis (list g.functionParameter)
  let output ← g.returned true
  let requirements ← g.shownRequirements
  let body ← if ← ahead (startsWith ";") then marks ";" else g.block
  return constness ++ asyncness ++ safety ++ convention ++ intro ++ name ++ parameters ++ inputs
    ++ output ++ requirements ++ body

/-- A field with a name. -/
def namedField (g : Grammar) : Reader (List Token) := do
  let attributes ← g.attributes
  let visibility ← visibility
  let name ← name
  let colon ← marks ":"
  let type ← g.type true
  return attributes ++ visibility ++ name ++ colon ++ type

/-- A field without a name. -/
def unnamedField (g : Grammar) : Reader (List Token) := do
  let attributes ← g.attributes
  let visibility ← visibility
  let type ← g.type true
  return attributes ++ visibility ++ type

/-- The fields of a structure or of a variant, if it has any. -/
def fieldGroup (g : Grammar) : Reader (List Token) := do
  if ← ahead (startsWithGroup .brace) then group .brace (list g.namedField)
  else if ← ahead (startsWithGroup .parenthesis) then group .parenthesis (list g.unnamedField)
  else return []

def structureItem (g : Grammar) : Reader (List Token) := do
  let intro ← anyToken
  let name ← name
  let parameters ← g.shownParameters
  let before ← g.shownRequirements
  let fields ← g.fieldGroup
  let behind ← g.shownRequirements
  let semicolon ← marks? ";"
  return intro ++ name ++ parameters ++ before ++ fields ++ behind ++ semicolon

/-- A variant of an enumeration. -/
def variant (g : Grammar) : Reader (List Token) := do
  let attributes ← g.attributes
  let visibility ← visibility
  let name ← name
  let fields ← g.fieldGroup
  let value ← behindEquals (g.expression true)
  return attributes ++ visibility ++ name ++ fields ++ value

def enumerationItem (g : Grammar) : Reader (List Token) := do
  let intro ← word "enum"
  let name ← name
  let parameters ← g.shownParameters
  let requirements ← g.shownRequirements
  let variants ← group .brace (list g.variant)
  return intro ++ name ++ parameters ++ requirements ++ variants

/-- What a type does, by itself or for a trait. -/
def implementationItem (g : Grammar) : Reader (List Token) := do
  let safety ← word? "unsafe"
  let intro ← word "impl"
  let parameters ← g.shownParameters
  let negation ← marks? "!"
  let subject ← g.type true
  let sign ← word? "for"
  let target ← if sign.isEmpty then pure [] else g.type true
  let requirements ← g.shownRequirements
  let items ← g.block
  return safety ++ intro ++ parameters ++ negation ++ subject ++ sign ++ target ++ requirements
    ++ items

/-- What types may do. -/
def traitItem (g : Grammar) : Reader (List Token) := do
  let safety ← word? "unsafe"
  let manner ← word? "auto"
  let intro ← word "trait"
  let name ← name
  let parameters ← g.shownParameters
  let bounds ← g.shownBounds
  let requirements ← g.shownRequirements
  let items ← g.block
  return safety ++ manner ++ intro ++ name ++ parameters ++ bounds ++ requirements ++ items

/-- Items in braces, behind what introduces them. -/
def itemGroup (g : Grammar) (intro : Reader (List Token)) : Reader (List Token) := do
  let safety ← word? "unsafe"
  let intro ← intro
  let items ← if ← ahead (startsWith ";") then marks ";" else g.block
  return safety ++ intro ++ items

/-- A module by its name. -/
def moduleName : Reader (List Token) := do
  let intro ← word "mod"
  let name ← name
  return intro ++ name

/-- An item of another kind, which is shown as it is spelled: up to its braces
    or a semicolon. -/
def otherItem : Reader (List Token) := do
  let front ← many (fun ts => !ts.isEmpty && !ends ts) anyToken
  let last ← anyToken
  return front ++ last
where
  ends (ts : List Token) : Bool := startsWithGroup .brace ts || startsWith ";" ts

/-- Words that a function is introduced by, before its own. -/
def functionModifiers : List String := ["const", "async", "unsafe", "safe", "extern"]

/-- A function stands behind its modifiers. -/
def startsFunction : List Token → Bool
  | .word w :: ts => w = "fn" || (w ∈ functionModifiers && startsFunction ts)
  | .literal _ :: ts => startsFunction ts
  | _ => false

/-- A constant stands here, and not an expression that begins with its word. -/
def startsConstantItem (ts : List Token) : Bool :=
  startsWordThen "const" (fun ts =>
    !startsWithGroup .brace ts && !startsWith "|" ts
      && !startsWithAny ["static", "async", "move"] ts) ts

/-- A static value stands here, and not a function without a name. -/
def startsStaticItem (ts : List Token) : Bool :=
  startsWordThen "static" (fun ts => startsWithWord "mut" ts || startsWithName ts) ts

/-- An item begins here. -/
def startsItem (ts : List Token) : Bool :=
  startsFunction ts || startsConstantItem ts || startsStaticItem ts
    || startsWithAny ["pub", "extern", "use", "mod", "type", "struct", "enum", "trait", "impl",
      "macro"] ts
    || startsWordThen "unsafe" (fun ts => !startsWithGroup .brace ts) ts
    || startsWordThen "union" startsWithName ts
    || startsWordThen "auto" (startsWithWord "trait") ts
    || (match Token.dropNames? ts with
        | some rest => follows "!" startsWithName rest
        | none => false)

/-- A word introduces an item, perhaps behind modifiers. -/
def introduces (w : String) (ts : List Token) : Bool :=
  startsWithWord w (ts.dropWhile fun t => t.isWord "unsafe" || t.isWord "auto")

def item (g : Grammar) : Reader (List Token) := do
  let visibility ← visibility
  let ts ← get
  let rest ←
    if startsFunction ts then g.functionItem
    else if startsWithAny ["const", "static"] ts then g.valueItem
    else if startsWithWord "type" ts then g.typeItem
    else if startsWithWord "use" ts then importItem
    else if startsWithWord "struct" ts || startsWordThen "union" startsWithName ts then
      g.structureItem
    else if startsWithWord "enum" ts then g.enumerationItem
    else if introduces "impl" ts then g.implementationItem
    else if introduces "trait" ts then g.traitItem
    else if introduces "mod" ts then g.itemGroup moduleName
    else if introduces "extern" ts && !startsWordThen "extern" (startsWithWord "crate") ts then
      g.itemGroup convention
    else otherItem
  return visibility ++ rest

/-! ## Statements -/

/-- A call with an input in braces stands here as a statement of its own. -/
def startsBracedCall (ts : List Token) : Bool :=
  match Token.dropNames? ts with
  | some rest =>
      follows "!" (startsWithGroup .brace) rest
        && !startsSelection (rest.drop 2) && !startsWith "?" (rest.drop 2)
  | none => false

def bracedCall : Reader (List Token) := do
  let path ← plainPath
  let bang ← marks "!"
  let input ← anyGroup
  let semicolon ← marks? ";"
  return path ++ bang ++ input ++ semicolon

/-- A binding: a pattern, its type, its value, and what is done if the value
    does not match. -/
def binding (g : Grammar) : Reader (List Token) := do
  let intro ← word "let"
  let pattern ← g.pattern
  let type ← g.ofType
  let value ← behindEquals (g.expression true)
  let otherwise ← word? "else"
  let block ← if otherwise.isEmpty then pure [] else g.block
  let semicolon ← marks ";"
  return intro ++ pattern ++ type ++ value ++ otherwise ++ block ++ semicolon

/-- An expression as a statement; unless it ends by itself or the block ends, a
    semicolon stands behind it. -/
def expressionStatement (g : Grammar) : Reader (List Token) := do
  let (complete, value) ← g.clause
  let complete ← if complete then pure true else ahead List.isEmpty
  let semicolon ← if complete then marks? ";" else marks ";"
  return value ++ semicolon

def statement (g : Grammar) : Reader (List Token) := do
  if ← ahead (startsWith ";") then marks ";"
  else
    let attributes ← g.attributes
    let ts ← get
    let rest ←
      if startsBracedCall ts then bracedCall
      else if startsWithWord "let" ts then g.binding
      else if startsItem ts then g.item
      else g.expressionStatement
    return attributes ++ rest

/-- Statements in braces. -/
def readBlock (g : Grammar) : Reader (List Token) :=
  group .brace do
    let attributes ← g.innerAttributes
    let statements ← many (fun ts => !ts.isEmpty) g.statement
    return attributes ++ statements

end Fixture.Derive.Grammar
