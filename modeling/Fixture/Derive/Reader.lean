import Fixture.Derive.Fault
import Fixture.Derive.Token

/-! # Readers

    A reader takes tokens from the front of a list, or finds a fault.  What most
    readers give are tokens again: those they took, as they are shown. -/

namespace Fixture.Derive

/-- Reads from the tokens ahead. -/
abbrev Reader := StateT (List Token) (Except Fault)

/-- Words that are no names. -/
def reservedWords : List String :=
  ["_", "abstract", "as", "async", "await", "become", "box", "break", "const",
    "continue", "crate", "do", "dyn", "else", "enum", "extern", "false", "final", "fn",
    "for", "if", "impl", "in", "let", "loop", "macro", "match", "mod", "move", "mut",
    "override", "priv", "pub", "ref", "return", "Self", "self", "static", "struct",
    "super", "trait", "true", "try", "type", "typeof", "unsafe", "unsized", "use",
    "virtual", "where", "while", "yield"]

/-- A name stands here. -/
def Token.startsWithName : List Token → Bool
  | .word w :: _ => w ∉ reservedWords
  | _ => false

/-- What is behind names with `::` between them. -/
def Token.dropNames? : List Token → Option (List Token)
  | .word _ :: .mark ":" true :: .mark ":" _ :: ts => dropNames? ts
  | .word _ :: ts => some ts
  | _ => none

namespace Reader

/-- The tokens ahead pass a test. -/
def ahead (test : List Token → Bool) : Reader Bool := do return test (← get)

/-- Something else than `what` stands ahead. -/
def missing {α : Type} (what : String) : Reader α := do
  throw (.expected what (← get).isEmpty)

/-! ## Single tokens -/

/-- The next token, whatever it is. -/
def anyToken : Reader (List Token) := do
  match ← get with
  | t :: ts =>
      set ts
      return [t]
  | [] => missing "token"

/-- The marks that spell `m`, which are shown as one. -/
def marks (m : String) : Reader (List Token) := do
  match Token.dropMarks? m.toList (← get) with
  | some rest =>
      set rest
      return [Token.sign m]
  | none => throw (.expected ("`" ++ m ++ "`") false)

/-- The first of several marks that stands ahead, if any does. -/
def marksOf (ms : List String) : Reader (List Token) := do
  let ts ← get
  match ms.find? (Token.startsWith · ts) with
  | some m => marks m
  | none => return []

def marks? (m : String) : Reader (List Token) := marksOf [m]

def word (w : String) : Reader (List Token) := do
  if ← ahead (Token.startsWithWord w) then anyToken else missing ("`" ++ w ++ "`")

/-- The first of several words that stands ahead, if any does. -/
def wordOf (ws : List String) : Reader (List Token) := do
  if ← ahead (Token.startsWithAny ws) then anyToken else return []

def word? (w : String) : Reader (List Token) := wordOf [w]

/-- A word that is a name. -/
def name : Reader (List Token) := do
  match ← get with
  | .word w :: _ => if w ∈ reservedWords then throw (.reserved w) else anyToken
  | _ => missing "identifier"

def lifetime : Reader (List Token) := do
  if ← ahead Token.startsWithLifetime then anyToken else missing "lifetime"

def lifetime? : Reader (List Token) := do
  if ← ahead Token.startsWithLifetime then anyToken else return []

/-- A literal; the sign of a number stands by itself. -/
def literal : Reader (List Token) := do
  if ← ahead Token.startsWithLiteral then
    let sign ← marks? "-"
    let value ← anyToken
    return sign ++ value
  else missing "literal"

/-! ## Groups -/

def nameOf : Delimiter → String
  | .parenthesis => "parentheses"
  | .bracket => "square brackets"
  | .brace => "curly braces"

/-- A group whose inside is read to its end. -/
def group (d : Delimiter) (inside : Reader (List Token)) : Reader (List Token) := do
  match ← get with
  | .group e inner :: ts =>
      if e = d then
        match inside.run inner with
        | .ok (shown, []) =>
            set ts
            return [.group d shown]
        | .ok _ => throw (.unexpected (some d))
        | .error f => throw f
      else missing (nameOf d)
  | _ => missing (nameOf d)

/-- A group as it is spelled. -/
def anyGroup : Reader (List Token) := do
  match ← get with
  | .group _ _ :: _ => anyToken
  | _ => missing "delimiter"

/-! ## Sequences -/

/-- As many times as the tokens ahead pass a test. -/
def many (test : List Token → Bool) (item : Reader (List Token)) : Reader (List Token) := do
  go (← get).length
where
  go : Nat → Reader (List Token)
    | 0 => return []
    | fuel + 1 => do
        if ← ahead test then
          let first ← item
          let others ← go fuel
          return first ++ others
        else return []

/-- Items between commas up to where a test is passed, and whether a comma
    stands behind each. -/
def between {α : Type} (stop : List Token → Bool) (item : Reader α) :
    Reader (List (α × Bool)) := do
  go ((← get).length + 1)
where
  go : Nat → Reader (List (α × Bool))
    | 0 => return []
    | fuel + 1 => do
        if ← ahead stop then return []
        let first ← item
        if ← ahead stop then return [(first, false)]
        let _ ← marks ","
        let others ← go fuel
        return (first, true) :: others

/-- Items between commas, with the commas. -/
def commas (stop : List Token → Bool) (item : Reader (List Token)) : Reader (List Token) := do
  let items ← between stop item
  return items.flatMap fun (ts, comma) => if comma then ts ++ [Token.sign ","] else ts

/-- Items between commas up to the end. -/
def list (item : Reader (List Token)) : Reader (List Token) := commas List.isEmpty item

/-- Items with plus signs between and perhaps behind them, up to where a test
    is passed. -/
def sum (stop : List Token → Bool) (item : Reader (List Token)) : Reader (List Token) := do
  if ← ahead stop then return []
  let first ← item
  let others ← many (Token.startsWith "+") do
    let plus ← marks "+"
    if ← ahead stop then return plus
    let next ← item
    return plus ++ next
  return first ++ others

/-- Reads all tokens. -/
def all {α : Type} (r : Reader α) (ts : List Token) : Except Fault α :=
  match r.run ts with
  | .ok (a, []) => .ok a
  | .ok _ => .error (.unexpected none)
  | .error f => .error f

end Reader

end Fixture.Derive
