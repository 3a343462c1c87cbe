import Fixture.Text.Quoted.Table

/-! # Quoted text

    A text between double quotes.  Quotes, backslashes and the common controls
    have short escapes, characters without a printed form of their own are
    spelled out as `\u{…}`, and everything else stands for itself. -/

namespace Fixture.Text.Quoted

def isSpelledOut (c : Char) : Bool :=
  spelledOut.any fun (first, last) => first ≤ c.toNat && c.toNat ≤ last

/-- What stands for a character between the quotes. -/
def escape (c : Char) : List Char :=
  match c with
  | '\x00' => ['\\', '0']
  | '\t' => ['\\', 't']
  | '\n' => ['\\', 'n']
  | '\r' => ['\\', 'r']
  | '"' => ['\\', '"']
  | '\\' => ['\\', '\\']
  | c =>
      if isSpelledOut c then
        ['\\', 'u', '{'] ++ Nat.toDigits 16 c.toNat ++ ['}']
      else [c]

/-- The text as it is shown in a message. -/
def quote (s : List Char) : List Char :=
  '"' :: s.flatMap escape ++ ['"']

/-- The inside of a string literal: as in a message, but a NUL in front of an
    octal digit is written with two hexadecimal digits. -/
def literalBody : List Char → List Char
  | [] => []
  | c :: s =>
      let octalNext := match s with
        | d :: _ => '0' ≤ d && d ≤ '7'
        | [] => false
      (if c = '\x00' ∧ octalNext = true then ['\\', 'x', '0', '0'] else escape c)
        ++ literalBody s

/-- The text as a string literal. -/
def literal (s : List Char) : List Char :=
  '"' :: literalBody s ++ ['"']

end Fixture.Text.Quoted
