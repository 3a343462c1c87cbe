import Fixture.Derive.Grammar.Pattern

/-! # Expressions

    Operands and the operators between them.  How operators bind is of no
    matter for what is shown; where an expression ends is.  An operator of
    several marks is shown as one, but the marks in front of an operand stand
    for themselves. -/

namespace Fixture.Derive.Grammar

open Token (startsWith follows startsWithWord startsWithAny startsWithGroup startsWithName
  startsWithLifetime startsWithLiteral)
open Reader

/-! ## Operators -/

/-- Operators between two operands.  One that begins with another comes first. -/
def operators : List String :=
  ["<<=", ">>=", "+=", "-=", "*=", "/=", "%=", "^=", "&=", "|=", "&&", "||", "<<", ">>",
    "==", "<=", "!=", ">=", "+", "-", "*", "/", "%", "^", "&", "|", "<", ">", "="]

/-- An operator stands here, and not the arrow of an arm. -/
def startsOperator (ts : List Token) : Bool :=
  !startsWith "=>" ts && operators.any (startsWith · ts)

/-- An expression with operators goes on here. -/
def startsContinuation (ts : List Token) : Bool :=
  startsWithWord "as" ts || startsWith ".." ts || startsOperator ts

/-- A range goes no further here. -/
def endsInterval (fields : Bool) (ts : List Token) : Bool :=
  ts.isEmpty || startsWith "," ts || startsWith ";" ts || startsWith "?" ts
    || (startsWith "." ts && !startsWith ".." ts) || startsWith "=" ts
    || startsWithWord "as" ts || (!fields && startsWithGroup .brace ts)

/-- The marks of a range and its end, if it has one. -/
def interval (g : Grammar) (fields : Bool) : Reader (List Token) := do
  let limits ← marksOf ["..=", ".."]
  let last ← if ← ahead (endsInterval fields) then pure [] else g.operand fields
  return limits ++ last

/-- An operator and the operand behind it. -/
def continuation (g : Grammar) (fields : Bool) : Reader (List Token) := do
  let ts ← get
  if startsWithWord "as" ts then
    let sign ← word "as"
    let type ← g.type false
    return sign ++ type
  else if startsWith ".." ts then g.interval fields
  else
    let sign ← marksOf operators
    let operand ← g.operand fields
    return sign ++ operand

/-- The rest of an expression behind its first operand. -/
def continuations (g : Grammar) (fields : Bool) : Reader (List Token) :=
  many startsContinuation (g.continuation fields)

def readExpression (g : Grammar) (fields : Bool) : Reader (List Token) := do
  let first ← g.operand fields
  let others ← g.continuations fields
  return first ++ others

/-- Expressions in a group. -/
def inputs (g : Grammar) (d : Delimiter) : Reader (List Token) :=
  group d (list (g.expression true))

/-! ## What stands behind an operand -/

/-- A part of an operand is selected here. -/
def startsSelection (ts : List Token) : Bool := startsWith "." ts && !startsWith ".." ts

/-- The operand goes on here. -/
def startsTrailer (ts : List Token) : Bool :=
  startsSelection ts || startsWith "?" ts || startsWithGroup .parenthesis ts
    || startsWithGroup .bracket ts

/-- The numbers of parts, when they are spelled like a number with a point. -/
def indices (spelling : String) : List Token :=
  (((spelling.splitOn ".").filter (· ≠ "")).map Token.literal).intersperse (Token.sign ".")

/-- A part by its name, and the arguments in angle brackets behind it. -/
def namedPart (g : Grammar) : Reader (List Token) := do
  let name ← anyToken
  if ← ahead (startsWith "::") then
    let colons ← marks "::"
    let arguments ← angles g.argument
    return name ++ colons ++ arguments
  else return name

/-- A part by its number or name. -/
def part (g : Grammar) : Reader (List Token) := do
  match ← get with
  | .literal l :: _ =>
      let _ ← anyToken
      if l.toList.getLast? = some '.' then
        let others ← g.namedPart
        return indices l ++ Token.sign "." :: others
      else return indices l
  | .word _ :: _ => g.namedPart
  | _ => missing "identifier or integer literal"

def trailer (g : Grammar) : Reader (List Token) := do
  let ts ← get
  if startsWithGroup .parenthesis ts then g.inputs .parenthesis
  else if startsWithGroup .bracket ts then group .bracket (g.expression true)
  else if startsWith "?" ts then marks "?"
  else
    let point ← marks "."
    let part ← g.part
    return point ++ part

def trailers (g : Grammar) : Reader (List Token) := many startsTrailer g.trailer

/-! ## Functions without a name -/

/-- The first token passes one test, and those behind it another. -/
def startsWordThen (w : String) (test : List Token → Bool) (ts : List Token) : Bool :=
  startsWithWord w ts && test (ts.drop 1)

def startsClosure (ts : List Token) : Bool :=
  startsWith "|" ts || startsWithAny ["move", "static"] ts
    || startsWordThen "for" (startsWith "<") ts
    || startsWordThen "const" (fun ts => !startsWithGroup .brace ts) ts
    || startsWordThen "async" (fun ts => startsWith "|" ts || startsWithWord "move" ts) ts

/-- What a function without a name takes. -/
def closureInput (g : Grammar) : Reader (List Token) := do
  let attributes ← g.attributes
  let pattern ← g.pattern
  let colon ← marks? ":"
  let type ← if colon.isEmpty then pure [] else g.type true
  return attributes ++ pattern ++ colon ++ type

def closure (g : Grammar) (fields : Bool) : Reader (List Token) := do
  let binder ← g.binder
  let constness ← word? "const"
  let pinned ← word? "static"
  let asyncness ← word? "async"
  let capture ← word? "move"
  let opening ← marks "|"
  let inputs ← commas (startsWith "|") g.closureInput
  let closing ← marks "|"
  let output ← g.returned true
  let body ← if output.isEmpty then g.expression fields else g.block
  return binder ++ constness ++ pinned ++ asyncness ++ capture ++ opening ++ inputs ++ closing
    ++ output ++ body

/-! ## Control -/

/-- A condition and what is done if it holds. -/
def branch (g : Grammar) (intro : String) : Reader (List Token) := do
  let intro ← word intro
  let condition ← g.expression false
  let block ← g.block
  return intro ++ condition ++ block

def conditional (g : Grammar) : Reader (List Token) := do
  let first ← g.branch "if"
  let others ← many (startsWithWord "else") do
    let intro ← word "else"
    let next ← if ← ahead (startsWithWord "if") then g.branch "if" else g.block
    return intro ++ next
  return first ++ others

def iteration (g : Grammar) : Reader (List Token) := do
  let intro ← word "for"
  let pattern ← g.alternatives
  let sign ← word "in"
  let range ← g.expression false
  let block ← g.block
  return intro ++ pattern ++ sign ++ range ++ block

/-- An expression that needs nothing behind it where statements stand. -/
def startsBlockLike (ts : List Token) : Bool :=
  startsWithAny ["if", "while", "loop", "match", "unsafe"] ts || startsWithGroup .brace ts
    || startsWithLifetime ts
    || startsWordThen "for" (fun ts => !startsWith "<" ts) ts
    || startsWordThen "try" (startsWithGroup .brace) ts
    || startsWordThen "const" (startsWithGroup .brace) ts

/-! ## Operands -/

/-- An expression begins here. -/
def startsExpression (ts : List Token) : Bool :=
  match ts with
  | [] => false
  | .word w :: _ => w ≠ "as"
  | .mark _ _ :: _ =>
      (startsWith "!" ts && !startsWith "!=" ts)
        || (startsWith "-" ts && !startsWith "-=" ts && !startsWith "->" ts)
        || (startsWith "*" ts && !startsWith "*=" ts)
        || (startsWith "|" ts && !startsWith "|=" ts)
        || (startsWith "&" ts && !startsWith "&=" ts)
        || startsWith ".." ts
        || (startsWith "<" ts && !startsWith "<=" ts && !startsWith "<<=" ts)
        || startsWith "::" ts || startsWith "#" ts
  | _ => true

/-- A field with its value, or what the other fields are taken from. -/
def fieldValue (g : Grammar) : Reader (List Token) := do
  if ← ahead (startsWith "..") then
    let sign ← marks ".."
    let others ← if ← ahead List.isEmpty then pure [] else g.expression true
    return sign ++ others
  let attributes ← g.attributes
  let name ← anyToken
  let colon ← marks? ":"
  let value ← if colon.isEmpty then pure [] else g.expression true
  return attributes ++ name ++ colon ++ value

/-- A path, and the input or the fields behind it. -/
def pathExpression (g : Grammar) (fields : Bool) : Reader (List Token) := do
  let path ← g.qualifiedPath true
  let ts ← get
  if startsWith "!" ts && !startsWith "!=" ts then
    let bang ← marks "!"
    let input ← anyGroup
    return path ++ bang ++ input
  else if fields && startsWithGroup .brace ts then
    let values ← group .brace (list g.fieldValue)
    return path ++ values
  else return path

/-- Elements, or one element and how often it stands there. -/
def array (g : Grammar) : Reader (List Token) :=
  group .bracket do
    if ← ahead List.isEmpty then return []
    let first ← g.expression true
    if ← ahead (startsWith ";") then
      let semicolon ← marks ";"
      let length ← g.expression true
      return first ++ semicolon ++ length
    else if ← ahead List.isEmpty then return first
    else
      let comma ← marks ","
      let others ← list (g.expression true)
      return first ++ comma ++ others

/-- A value that is matched inside of a condition. -/
def letCondition (g : Grammar) (fields : Bool) : Reader (List Token) := do
  let intro ← word "let"
  let pattern ← g.alternatives
  let sign ← marks "="
  let value ← g.operand fields
  return intro ++ pattern ++ sign ++ value

/-- An expression that needs nothing behind it may stand before others, and is
    then read without what follows. -/
def clause (g : Grammar) : Reader (Bool × List Token) := do
  let attributes ← g.attributes
  if ← ahead startsBlockLike then
    let first ← g.atom true
    if ← ahead fun ts => startsSelection ts || startsWith "?" ts then
      let others ← g.trailers
      let rest ← g.continuations true
      return (false, attributes ++ first ++ others ++ rest)
    else return (true, attributes ++ first)
  else
    let value ← g.expression true
    return (false, attributes ++ value)

/-- An arm; a comma has to stand behind a value that needs it. -/
def arm (g : Grammar) : Reader (List Token) := do
  let attributes ← g.attributes
  let pattern ← g.alternatives
  let intro ← word? "if"
  let condition ← if intro.isEmpty then pure [] else g.expression true
  let arrow ← marks "=>"
  let (complete, value) ← g.clause
  let complete ← if complete then pure true else ahead List.isEmpty
  let comma ← if complete then marks? "," else marks ","
  return attributes ++ pattern ++ intro ++ condition ++ arrow ++ value ++ comma

/-- What a value is matched against, arm by arm. -/
def matching (g : Grammar) : Reader (List Token) := do
  let intro ← word "match"
  let value ← g.expression false
  let arms ← group .brace do
    let attributes ← g.innerAttributes
    let arms ← many (fun ts => !ts.isEmpty) g.arm
    return attributes ++ arms
  return intro ++ value ++ arms

/-- The end of an iteration, with the value it has. -/
def breaking (g : Grammar) (fields : Bool) : Reader (List Token) := do
  let valueAhead (ts : List Token) : Bool :=
    startsExpression ts && (fields || !startsWithGroup .brace ts)
  let intro ← word "break"
  let label ← lifetime?
  let value ← if ← ahead valueAhead then g.expression fields else pure []
  return intro ++ label ++ value

/-- A value that is given back, behind the word for it. -/
def returning (g : Grammar) : Reader (List Token) := do
  let intro ← anyToken
  let value ← if ← ahead startsExpression then g.expression true else pure []
  return intro ++ value

/-- An operand without marks in front and parts behind. -/
def readAtom (g : Grammar) (fields : Bool) : Reader (List Token) := do
  let ts ← get
  let asyncBlock (ts : List Token) : Bool :=
    startsWithGroup .brace ts || startsWordThen "move" (startsWithGroup .brace) ts
  if startsWithLiteral ts then literal
  else if startsWordThen "async" asyncBlock ts then
    let intro ← word "async"
    let capture ← word? "move"
    let block ← g.block
    return intro ++ capture ++ block
  else if startsClosure ts then g.closure fields
  else if startsPath ts || startsWordThen "try" (fun ts => !startsWithGroup .brace ts) ts then
    g.pathExpression fields
  else if startsWithGroup .parenthesis ts then tuple (g.expression true)
  else if startsWithGroup .bracket ts then g.array
  else if startsWithGroup .brace ts then g.block
  else if startsWithWord "break" ts then g.breaking fields
  else if startsWithWord "continue" ts then
    let intro ← anyToken
    let label ← lifetime?
    return intro ++ label
  else if startsWithAny ["return", "yield", "become"] ts then g.returning
  else if startsWithWord "let" ts then g.letCondition fields
  else if startsWithWord "if" ts then g.conditional
  else if startsWithWord "while" ts then g.branch "while"
  else if startsWithWord "for" ts then g.iteration
  else if startsWithWord "match" ts then g.matching
  else if startsWithAny ["loop", "unsafe", "try", "const"] ts then
    let intro ← anyToken
    let block ← g.block
    return intro ++ block
  else if startsWith ".." ts then g.interval fields
  else if startsWithWord "_" ts then anyToken
  else if startsWithLifetime ts then
    let label ← lifetime
    let colon ← marks ":"
    let labelled ← g.atom true
    return label ++ colon ++ labelled
  else missing "an expression"

/-- A reference to an operand, which may be one to where it stands. -/
def reference (g : Grammar) (fields : Bool) : Reader (List Token) := do
  let sign ← marks "&"
  let raw ←
    if ← ahead (startsWordThen "raw" (startsWithAny ["mut", "const"])) then word "raw"
    else pure []
  let mutability ← if raw.isEmpty then word? "mut" else wordOf ["mut", "const"]
  let target ← g.operand fields
  return sign ++ raw ++ mutability ++ target

/-- An operand with the marks in front of it and the parts behind it. -/
def readOperand (g : Grammar) (fields : Bool) : Reader (List Token) := do
  let attributes ← g.attributes
  let ts ← get
  if startsWith "&" ts then
    let inner ← g.reference fields
    return attributes ++ inner
  else if ["*", "!", "-"].any (startsWith · ts) then
    let sign ← marksOf ["*", "!", "-"]
    let inner ← g.operand fields
    return attributes ++ sign ++ inner
  else
    let first ← g.readAtom fields
    let others ← g.trailers
    return attributes ++ first ++ others

end Fixture.Derive.Grammar
