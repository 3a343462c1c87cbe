import Fixture.Derive.Token
import Fixture.Json.Reader
import Fixture.Text.Blank
import Fixture.Text.Identifier
import Fixture.Text.Quoted
import Fixture.Text.Search

/-! # Lexemes

    The text of a definition is cut into lexemes, and those between matching
    delimiters are gathered into groups.  Comments are passed over, but one
    that documents what follows it is an attribute with its text. -/

namespace Fixture.Derive

/-- A token, or a delimiter by itself. -/
inductive Lexeme where
  | token (t : Token)
  | opening (d : Delimiter)
  | closing (d : Delimiter)

namespace Lexeme

open Text.Identifier (isStart isInside)

/-! ## Characters -/

/-- A character that is a mark. -/
def isMarkChar (c : Char) : Bool := "~!@#$%^&*-=+|;:,<.>/?'".contains c

/-- Blanks between lexemes, marks of the writing direction among them. -/
def isGap (c : Char) : Bool := Text.isBlank c || c = '\u200e' || c = '\u200f'

/-- An identifier that begins here. -/
def takeName (s : List Char) : List Char × List Char :=
  match s with
  | c :: _ => if isStart c then (s.takeWhile isInside, s.dropWhile isInside) else ([], s)
  | [] => ([], [])

/-- A literal with the letters behind it, which belong to it. -/
def withSuffix (literal rest : List Char) : List Char × List Char :=
  let (suffix, rest) := takeName rest
  (literal ++ suffix, rest)

/-! ## Texts and characters -/

/-- What an escape goes on with behind its backslash. -/
def takeEscape : List Char → Option (List Char × List Char)
  | 'x' :: a :: b :: s => some (['x', a, b], s)
  | 'u' :: '{' :: s =>
      match s.dropWhile (· ≠ '}') with
      | _ :: rest => some ('u' :: '{' :: s.takeWhile (· ≠ '}') ++ ['}'], rest)
      | [] => none
  | c :: s => if "nrt\\0'\"".contains c then some ([c], s) else none
  | [] => none

/-- Takes a literal up to and with its closing quote, which a backslash hides. -/
def takeUntil (quote : Char) : List Char → Option (List Char × List Char)
  | [] => none
  | '\\' :: c :: s =>
      (takeUntil quote s).map fun (body, rest) => ('\\' :: c :: body, rest)
  | c :: s =>
      if c = quote then some ([c], s)
      else (takeUntil quote s).map fun (body, rest) => (c :: body, rest)

/-- Takes a raw literal behind its first quote, up to a quote and as many
    hashes as it began with. -/
def takeRaw (hashes : List Char) : List Char → Option (List Char × List Char)
  | [] => none
  | c :: s =>
      match Text.dropFront? ('"' :: hashes) (c :: s) with
      | some rest => some ('"' :: hashes, rest)
      | none => (takeRaw hashes s).map fun (body, rest) => (c :: body, rest)

/-- A raw literal behind the letters in front of it. -/
def takeRawLiteral (s : List Char) : Option (List Char × List Char) :=
  let hashes := s.takeWhile (· = '#')
  match s.dropWhile (· = '#') with
  | '"' :: rest =>
      (takeRaw hashes rest).map fun (body, rest) => (hashes ++ '"' :: body, rest)
  | _ => none

/-- A character between apostrophes, behind the first of them. -/
def takeCharacter : List Char → Option (List Char × List Char)
  | '\\' :: s =>
      match takeEscape s with
      | some (escape, '\'' :: rest) => some ('\\' :: escape ++ ['\''], rest)
      | _ => none
  | c :: '\'' :: s => some ([c, '\''], s)
  | _ => none

/-- A text or a character, with the letters that may stand in front of it. -/
def takeText : List Char → Option (List Char × List Char)
  | '"' :: s => (takeUntil '"' s).map fun (t, rest) => ('"' :: t, rest)
  | '\'' :: s => (takeCharacter s).map fun (t, rest) => ('\'' :: t, rest)
  | 'b' :: 'r' :: s => (takeRawLiteral s).map fun (t, rest) => ('b' :: 'r' :: t, rest)
  | 'c' :: 'r' :: s => (takeRawLiteral s).map fun (t, rest) => ('c' :: 'r' :: t, rest)
  | 'r' :: s => (takeRawLiteral s).map fun (t, rest) => ('r' :: t, rest)
  | 'b' :: '"' :: s => (takeUntil '"' s).map fun (t, rest) => ('b' :: '"' :: t, rest)
  | 'c' :: '"' :: s => (takeUntil '"' s).map fun (t, rest) => ('c' :: '"' :: t, rest)
  | 'b' :: '\'' :: s => (takeCharacter s).map fun (t, rest) => ('b' :: '\'' :: t, rest)
  | _ => none

/-! ## Numbers -/

/-- A digit, or the mark that may stand between digits. -/
def isDecimal (c : Char) : Bool := c.isDigit || c = '_'

/-- An exponent behind its letter, which has at least one digit. -/
def takeExponent (s : List Char) : Option (List Char × List Char) :=
  let gap := s.takeWhile (· = '_')
  let (sign, rest) := match s.dropWhile (· = '_') with
    | '+' :: rest => (['+'], rest)
    | '-' :: rest => (['-'], rest)
    | rest => ([], rest)
  let digits := rest.takeWhile isDecimal
  if digits.any Char.isDigit then some (gap ++ sign ++ digits, rest.dropWhile isDecimal)
  else none

/-- A number with an exponent, if one follows. -/
def withExponent? (number : List Char) : List Char → Option (List Char × List Char)
  | 'e' :: s => (takeExponent s).map fun (e, rest) => (number ++ 'e' :: e, rest)
  | 'E' :: s => (takeExponent s).map fun (e, rest) => (number ++ 'E' :: e, rest)
  | _ => none

/-- A number with a point or an exponent.  A point in front of another one or
    of a name is none of the number. -/
def takeFraction (s : List Char) : Option (List Char × List Char) :=
  let whole := s.takeWhile isDecimal
  match s.dropWhile isDecimal with
  | '.' :: rest =>
      let joins := match rest with
        | c :: _ => c = '.' || isStart c
        | [] => false
      if joins then none
      else
        let number := whole ++ '.' :: rest.takeWhile isDecimal
        let rest := rest.dropWhile isDecimal
        some ((withExponent? number rest).getD (number, rest))
  | rest => withExponent? whole rest

/-- The digits of a whole number, which may be to another base than ten. -/
def takeWhole (s : List Char) : Option (List Char × List Char) :=
  match s with
  | '0' :: 'x' :: rest => toBase 'x' (fun c => (Json.hexDigit? c).isSome) rest
  | '0' :: 'o' :: rest => toBase 'o' (fun c => '0' ≤ c && c ≤ '7') rest
  | '0' :: 'b' :: rest => toBase 'b' (fun c => c = '0' || c = '1') rest
  | _ => some (s.takeWhile isDecimal, s.dropWhile isDecimal)
where
  toBase (letter : Char) (isDigit : Char → Bool) (s : List Char) :
      Option (List Char × List Char) :=
    let digits := s.takeWhile fun c => isDigit c || c = '_'
    let rest := s.dropWhile fun c => isDigit c || c = '_'
    let beyond := match rest with
      | c :: _ => c.isDigit
      | [] => false
    if digits.any isDigit && !beyond then some ('0' :: letter :: digits, rest) else none

/-- A number, which begins with a digit. -/
def takeNumber (s : List Char) : Option (List Char × List Char) :=
  (takeFraction s).orElse fun _ => takeWhole s

/-! ## Comments -/

/-- Takes a comment between `/*` and `*/` that is `depth` levels deep, and may
    hold others. -/
def takeComment : Nat → List Char → Option (List Char × List Char)
  | 0, s => some ([], s)
  | _, [] => none
  | depth + 1, '*' :: '/' :: s =>
      (takeComment depth s).map fun (t, rest) => ('*' :: '/' :: t, rest)
  | depth + 1, '/' :: '*' :: s =>
      (takeComment (depth + 2) s).map fun (t, rest) => ('/' :: '*' :: t, rest)
  | depth + 1, c :: s => (takeComment (depth + 1) s).map fun (t, rest) => (c :: t, rest)

/-- The rest of a line; a carriage return in front of the break is none of it. -/
def takeLine : List Char → List Char × List Char
  | [] => ([], [])
  | '\n' :: s => ([], '\n' :: s)
  | '\r' :: '\n' :: s => ([], '\n' :: s)
  | c :: s =>
      let (line, rest) := takeLine s
      (c :: line, rest)

/-- A text has a carriage return without a line break. -/
def hasBareReturn : List Char → Bool
  | [] => false
  | '\r' :: '\n' :: s => hasBareReturn s
  | '\r' :: _ => true
  | _ :: s => hasBareReturn s

/-- A comment is about what follows it, or about what it stands in. -/
inductive Subject where
  | following
  | enclosing

/-- The attribute that a comment stands for. -/
def documentation (subject : Subject) (text : List Char) : Option (List Lexeme) :=
  if hasBareReturn text then none
  else
    let bang := match subject with
      | .following => []
      | .enclosing => [.token (Token.sign "!")]
    let content := Token.bracketed
      [.word "doc", Token.sign "=", Token.quoted (Text.Quoted.literal text)]
    some (.token (Token.sign "#") :: bang ++ [.token content])

/-- The comment between `/*` and `*/` that goes on with `s`, behind `skipped`
    further characters, documents something. -/
def documentedBy (subject : Subject) (skipped : Nat) (s : List Char) :
    Option (List Lexeme × List Char) := do
  let (comment, rest) ← takeComment 1 s
  let ls ← documentation subject ((comment.take (comment.length - 2)).drop skipped)
  some (ls, rest)

/-- The comment that begins with `//` and goes on with `s` documents something. -/
def documentedByLine (subject : Subject) (s : List Char) :
    Option (List Lexeme × List Char) := do
  let (line, rest) := takeLine s
  let ls ← documentation subject line
  some (ls, rest)

/-- A comment that begins here, and what it stands for. -/
def takeRemark : List Char → Option (List Lexeme × List Char)
  | '/' :: '/' :: '/' :: '/' :: s => some ([], (takeLine s).2)
  | '/' :: '/' :: '/' :: s => documentedByLine .following s
  | '/' :: '/' :: '!' :: s => documentedByLine .enclosing s
  | '/' :: '/' :: s => some ([], (takeLine s).2)
  | '/' :: '*' :: '*' :: '/' :: s => some ([], s)
  | '/' :: '*' :: '*' :: '*' :: s =>
      (takeComment 1 ('*' :: '*' :: s)).map fun (_, rest) => ([], rest)
  | '/' :: '*' :: '*' :: s => documentedBy .following 1 ('*' :: s)
  | '/' :: '*' :: '!' :: s => documentedBy .enclosing 1 ('!' :: s)
  | '/' :: '*' :: s => (takeComment 1 s).map fun (_, rest) => ([], rest)
  | _ => none

/-- A comment begins here. -/
def isRemark : List Char → Bool
  | '/' :: '/' :: _ => true
  | '/' :: '*' :: _ => true
  | _ => false

/-! ## Lexemes -/

/-- Words that no mark makes a name of. -/
def lastingWords : List String := ["_", "super", "self", "Self", "crate"]

/-- A word, which may be marked as one that is no keyword. -/
def takeWord (s : List Char) : Option (String × List Char) :=
  match s with
  | 'r' :: '#' :: more =>
      let (name, rest) := takeName more
      if name = [] ∨ String.ofList name ∈ lastingWords then none
      else some (String.ofList ('r' :: '#' :: name), rest)
  | _ =>
      let (name, rest) := takeName s
      if name = [] then none else some (String.ofList name, rest)

/-- The name of a lifetime behind its apostrophe. -/
def takeLifetime (s : List Char) : Option (Token × List Char) := do
  let (name, rest) ← takeWord s
  let ends := match rest with
    | '\'' :: _ => false
    | '#' :: _ => s.take 2 = ['r', '#']
    | _ => true
  if ends then some (.lifetime ("'" ++ name), rest) else none

/-- A mark, which the next one joins unless a comment begins there. -/
def takeMark : List Char → Option (Token × List Char)
  | c :: s =>
      if isMarkChar c then
        let joint := match s with
          | d :: _ => isMarkChar d && !isRemark s
          | [] => false
        some (.mark (String.singleton c) joint, s)
      else none
  | [] => none

def delimiter? (c : Char) : Option Lexeme :=
  match c with
  | '(' => some (.opening .parenthesis)
  | ')' => some (.closing .parenthesis)
  | '[' => some (.opening .bracket)
  | ']' => some (.closing .bracket)
  | '{' => some (.opening .brace)
  | '}' => some (.closing .brace)
  | _ => none

/-- A literal with its suffix. -/
def takeLiteral (s : List Char) : Option (Token × List Char) := do
  let (literal, rest) ← (takeText s).orElse fun _ =>
    match s with
    | c :: _ => if c.isDigit then takeNumber s else none
    | [] => none
  let (literal, rest) := withSuffix literal rest
  some (.literal (String.ofList literal), rest)

/-- The token that begins here. -/
def takeToken (s : List Char) : Option (Token × List Char) :=
  match takeLiteral s with
  | some taken => some taken
  | none =>
      match s with
      | '\'' :: rest => takeLifetime rest
      | _ =>
          match takeMark s with
          | some taken => some taken
          | none => (takeWord s).map fun (w, rest) => (.word w, rest)

/-- The lexemes that begin here; a gap or a comment is none. -/
def take (s : List Char) : Option (List Lexeme × List Char) :=
  match s with
  | [] => none
  | c :: rest =>
      if isGap c then some ([], rest)
      else if isRemark s then takeRemark s
      else
        match delimiter? c with
        | some l => some ([l], rest)
        | none => (takeToken s).map fun (t, rest) => ([.token t], rest)

/-- The lexemes of a text.  Every step takes at least one character. -/
def readAll : Nat → List Char → Option (List Lexeme)
  | _, [] => some []
  | 0, _ => none
  | fuel + 1, s => do
      let (first, rest) ← take s
      let others ← readAll fuel rest
      some (first ++ others)

/-- Gathers lexemes into groups.  `inner` stands behind the innermost delimiter
    that is open, and `outer` are the others with what stands in front. -/
def gather : List Lexeme → List Token → List (Delimiter × List Token) → Option (List Token)
  | [], inner, [] => some inner
  | [], _, _ :: _ => none
  | .token t :: ls, inner, outer => gather ls (inner ++ [t]) outer
  | .opening d :: ls, inner, outer => gather ls [] ((d, inner) :: outer)
  | .closing d :: ls, inner, (e, before) :: outer =>
      if d = e then gather ls (before ++ [.group d inner]) outer else none
  | .closing _ :: _, _, [] => none

end Lexeme

/-- The tokens of a text, in front of which a byte order mark may stand. -/
def Token.read (s : List Char) : Option (List Token) := do
  let s := match s with
    | '\ufeff' :: s => s
    | s => s
  let ls ← Lexeme.readAll s.length s
  Lexeme.gather ls [] []

/-! ## Texts in literals -/

/-- The text of a literal behind its opening quote, with escapes decoded, up to
    the closing quote, and what is behind that.  A backslash at the end of a
    line passes over the break and the blanks behind it. -/
def unescape : Nat → List Char → Option (List Char × List Char)
  | 0, _ => none
  | fuel + 1, s =>
      let put (c : Char) (rest : List Char) : Option (List Char × List Char) :=
        (unescape fuel rest).map fun (text, rest) => (c :: text, rest)
      match s with
      | '"' :: rest => some ([], rest)
      | '\\' :: 'n' :: rest => put '\n' rest
      | '\\' :: 'r' :: rest => put '\r' rest
      | '\\' :: 't' :: rest => put '\t' rest
      | '\\' :: '0' :: rest => put '\x00' rest
      | '\\' :: '\\' :: rest => put '\\' rest
      | '\\' :: '\'' :: rest => put '\'' rest
      | '\\' :: '"' :: rest => put '"' rest
      | '\\' :: 'x' :: a :: b :: rest => do
          let n ← Json.hexValue? [a, b]
          if n < 0x80 then put (Char.ofNat n) rest else none
      | '\\' :: 'u' :: '{' :: rest => do
          let ds := (rest.takeWhile (· ≠ '}')).filter (· ≠ '_')
          let n ← if ds = [] then none else Json.hexValue? ds
          if n.isValidChar then put (Char.ofNat n) ((rest.dropWhile (· ≠ '}')).drop 1)
          else none
      | '\\' :: '\n' :: rest => unescape fuel (rest.dropWhile isLineGap)
      | '\\' :: '\r' :: rest => unescape fuel (rest.dropWhile isLineGap)
      | '\r' :: '\n' :: rest => put '\n' rest
      | c :: rest => put c rest
      | [] => none
where
  isLineGap (c : Char) : Bool := c = ' ' || c = '\t' || c = '\n' || c = '\r'

/-- The text that a literal stands for, if it stands for text, and the letters
    behind it. -/
def stringValue? (literal : String) : Option (List Char × List Char) :=
  match literal.toList with
  | '"' :: s => unescape (s.length + 1) s
  | 'r' :: s =>
      let hashes := s.takeWhile (· = '#')
      match s.dropWhile (· = '#') with
      | '"' :: body =>
          match Text.cut? ('"' :: hashes) body with
          | some (text, suffix) => some (text, suffix)
          | none => none
      | _ => none
  | _ => none

end Fixture.Derive
