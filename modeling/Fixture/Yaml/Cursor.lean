/-! # A place in a text

    A cursor is the rest of a text and where it begins: line and column, both
    from zero, and whether only blanks precede it on its line.  The end of the
    text reads as a NUL, and the text before the first NUL is all there is. -/

namespace Fixture.Yaml

def isBreak (c : Char) : Bool := c = '\n' || c = '\r'

def isBlank (c : Char) : Bool := c = ' ' || c = '\t'

/-- A line break or the end. -/
def isLineEnd (c : Char) : Bool := isBreak c || c = '\x00'

/-- A blank, a line break or the end. -/
def isGap (c : Char) : Bool := isBlank c || isLineEnd c

/-- An indicator of flow collections. -/
def isFlow (c : Char) : Bool :=
  c = ',' || c = '[' || c = ']' || c = '{' || c = '}'

/-- A character of words: letters, digits, underscore and hyphen. -/
def isWord (c : Char) : Bool := c.isAlphanum || c = '_' || c = '-'

/-- A place in a text. -/
structure Cursor where
  rest : List Char
  index : Nat
  line : Nat
  column : Nat
  /-- Only blanks precede the place on its line. -/
  fresh : Bool
deriving Repr

namespace Cursor

/-- The start of a text. -/
def start (s : List Char) : Cursor :=
  ⟨s.takeWhile (· ≠ '\x00'), 0, 0, 0, true⟩

/-- The character `n` places ahead. -/
def peekAt (c : Cursor) (n : Nat) : Char := c.rest.getD n '\x00'

/-- The next character. -/
def peek (c : Cursor) : Char := c.peekAt 0

def atEnd (c : Cursor) : Bool := c.rest.isEmpty

/-- Passes `n` characters of one line that do not begin its content. -/
def pass (c : Cursor) (n : Nat) : Cursor :=
  { c with rest := c.rest.drop n, index := c.index + n, column := c.column + n }

/-- Passes `n` characters of the content of a line. -/
def take (c : Cursor) (n : Nat) : Cursor := { c.pass n with fresh := false }

/-- Passes a line break. -/
def newline (c : Cursor) : Cursor :=
  match c.rest with
  | '\r' :: '\n' :: s => ⟨s, c.index + 2, c.line + 1, 0, true⟩
  | _ :: s => ⟨s, c.index + 1, c.line + 1, 0, true⟩
  | [] => c

/-- Passes everything up to the end of the line. -/
def toBreak (c : Cursor) : Cursor :=
  c.pass (c.rest.takeWhile fun x => !isBreak x).length

/-- Blanks that were passed on the way to the end of a line. -/
structure Blanks where
  spaces : Bool
  tabs : Bool

/-- Passes blanks, and a comment behind them; a comment without a blank before
    it is refused.  Tabs count as blanks only where `tabs` allows them. -/
def skipBlanks (tabs : Bool) (c : Cursor) : Option (Cursor × Blanks) :=
  let blanks := c.rest.takeWhile fun x => x = ' ' || (tabs && x = '\t')
  let next := c.pass blanks.length
  let seen : Blanks := ⟨blanks.contains ' ', blanks.contains '\t'⟩
  if next.peek = '#' then
    if blanks = [] then none else some (next.toBreak, seen)
  else some (next, seen)

/-- The three characters that begin or end a document stand here. -/
def atMarker (c : Cursor) (mark : Char) : Bool :=
  c.peekAt 0 = mark && c.peekAt 1 = mark && c.peekAt 2 = mark && isGap (c.peekAt 3)

/-- A document begins or ends here. -/
def atAnyMarker (c : Cursor) : Bool := c.atMarker '-' || c.atMarker '.'

end Cursor

end Fixture.Yaml
