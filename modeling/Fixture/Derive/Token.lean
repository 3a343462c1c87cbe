/-! # Token trees

    The tokens of a definition in Rust, with what stands between delimiters as
    one token, and the text that a list of tokens is shown as: tokens have one
    space between them, except behind a mark that another one joins, and braces
    have one inside. -/

namespace Fixture.Derive

/-- A pair of delimiters. -/
inductive Delimiter where
  | parenthesis
  | bracket
  | brace
deriving DecidableEq, Repr

/-- A token; all but marks and groups are kept as they are spelled. -/
inductive Token where
  | word (spelling : String)
  | lifetime (spelling : String)
  | literal (spelling : String)
  /-- A mark, and whether what follows joins it. -/
  | mark (spelling : String) (joint : Bool)
  | group (delimiter : Delimiter) (inner : List Token)
deriving Repr, Inhabited, BEq

namespace Token

/-- A mark that stands for itself. -/
def sign (s : String) : Token := .mark s false

def isWord (s : String) : Token → Bool
  | .word t => t = s
  | _ => false

/-- A group with this delimiter. -/
def isGroup (d : Delimiter) : Token → Bool
  | .group e _ => e = d
  | _ => false

/-- Another mark joins the token. -/
def isJoint : Token → Bool
  | .mark _ joint => joint
  | _ => false

/-- A literal of a number. -/
def isNumber : Token → Bool
  | .literal l => (l.toList.head?.map Char.isDigit).getD false
  | _ => false

def parenthesized (ts : List Token) : Token := .group .parenthesis ts

def bracketed (ts : List Token) : Token := .group .bracket ts

def braced (ts : List Token) : Token := .group .brace ts

/-- The quoted form of a text as a token. -/
def quoted (literal : List Char) : Token := .literal (String.ofList literal)

mutual

/-- How many tokens a token consists of, with what is inside of it. -/
def size : Token → Nat
  | .group _ inner => sizeAll inner + 1
  | _ => 1

def sizeAll : List Token → Nat
  | [] => 0
  | t :: ts => size t + sizeAll ts

end

/-! ## Lists of tokens -/

/-- What is behind the marks that spell a text, if they stand here and each of
    them but the last is joined by the next. -/
def dropMarks? : List Char → List Token → Option (List Token)
  | [], ts => some ts
  | c :: cs, .mark m joint :: ts =>
      if m = String.singleton c ∧ (cs = [] ∨ joint = true) then dropMarks? cs ts else none
  | _, _ => none

/-- The marks that spell a text stand here. -/
def startsWith (s : String) (ts : List Token) : Bool := (dropMarks? s.toList ts).isSome

/-- The marks that spell a text stand here, and what is behind them passes a
    test. -/
def follows (s : String) (test : List Token → Bool) (ts : List Token) : Bool :=
  ((dropMarks? s.toList ts).map test).getD false

/-- A word stands here. -/
def startsWithWord (w : String) (ts : List Token) : Bool := (ts.head?.map (isWord w)).getD false

/-- One of several words stands here. -/
def startsWithAny (ws : List String) (ts : List Token) : Bool := ws.any (startsWithWord · ts)

/-- A group stands here. -/
def startsWithGroup (d : Delimiter) (ts : List Token) : Bool :=
  (ts.head?.map (isGroup d)).getD false

def startsWithLifetime : List Token → Bool
  | .lifetime _ :: _ => true
  | _ => false

/-- A literal stands here; a number may have a sign. -/
def startsWithLiteral : List Token → Bool
  | .literal _ :: _ => true
  | .word w :: _ => w = "true" || w = "false"
  | .mark "-" _ :: t :: _ => t.isNumber
  | _ => false

/-! ## Text -/

mutual

/-- The text of a token. -/
def render : Token → List Char
  | .word s => s.toList
  | .lifetime s => s.toList
  | .literal s => s.toList
  | .mark s _ => s.toList
  | .group .brace [] => ['{', ' ', '}']
  | .group .brace (t :: ts) => '{' :: ' ' :: renderAll (t :: ts) ++ [' ', '}']
  | .group .parenthesis ts => '(' :: renderAll ts ++ [')']
  | .group .bracket ts => '[' :: renderAll ts ++ [']']

/-- The text of tokens behind each other. -/
def renderAll : List Token → List Char
  | [] => []
  | [t] => render t
  | t :: ts => render t ++ (if t.isJoint then [] else [' ']) ++ renderAll ts

end

/-- The text of tokens as a string. -/
def text (ts : List Token) : String := String.ofList (renderAll ts)

end Token

/-! ## Parts -/

/-- Parts between commas, and whether a comma stands behind the last. -/
structure Parts where
  parts : List (List Token)
  trailing : Bool

/-- Parts with commas between them. -/
def Parts.tokens (p : Parts) : List Token :=
  match p.parts with
  | [] => []
  | part :: parts =>
      part ++ parts.flatMap (fun part => Token.sign "," :: part)
        ++ if p.trailing then [Token.sign ","] else []

/-- A part of a list in angle brackets. -/
structure Argument where
  /-- The part is about a lifetime. -/
  lifetime : Bool
  tokens : List Token
  /-- A comma stands behind the part. -/
  comma : Bool

/-- The parts of a list in angle brackets behind each other: those about
    lifetimes come first, and a comma that is missing behind them is put in. -/
def lifetimesFirst (ps : List Argument) : List Token :=
  let comma := Token.sign ","
  let spell (p : Argument) : List Token := p.tokens ++ if p.comma then [comma] else []
  let lifetimes := ps.filter (·.lifetime)
  let others := ps.filter fun p => !p.lifetime
  let missing := match lifetimes.getLast? with
    | some p => !p.comma && !others.isEmpty
    | none => false
  lifetimes.flatMap spell ++ (if missing then [comma] else []) ++ others.flatMap spell

end Fixture.Derive
