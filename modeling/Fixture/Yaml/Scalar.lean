import Fixture.Yaml.Cursor
import Fixture.Json.Reader

/-! # Scalars of a YAML text

    Three ways to write a scalar: quoted, plain, and as an indented block.  All
    of them run over several lines; quoted and plain ones fold a line break into
    a space and keep the further ones. -/

namespace Fixture.Yaml

/-! ## Folding -/

/-- What line breaks and blanks between two words of a scalar come to: blanks
    alone stay, a single break is a space, further breaks stay. -/
structure Fold where
  /-- Blanks on the line of the first word. -/
  blanks : List Char
  /-- A break has been passed. -/
  broken : Bool
  /-- Breaks after the first. -/
  more : List Char

namespace Fold

def none : Fold := ⟨[], false, []⟩

def text (f : Fold) : List Char :=
  if f.broken then (if f.more = [] then [' '] else f.more) else f.blanks ++ f.more

end Fold

/-! ## Quoted scalars -/

/-- The character a one-letter escape stands for. -/
def escaped? (c : Char) : Option Char :=
  match c with
  | '0' => some '\x00'
  | 'a' => some '\x07'
  | 'b' => some '\x08'
  | 't' => some '\t'
  | '\t' => some '\t'
  | 'n' => some '\n'
  | 'v' => some '\x0b'
  | 'f' => some '\x0c'
  | 'r' => some '\r'
  | 'e' => some '\x1b'
  | ' ' => some ' '
  | '"' => some '"'
  | '/' => some '/'
  | '\\' => some '\\'
  | 'N' => some '\u0085'
  | '_' => some '\u00a0'
  | 'L' => some '\u2028'
  | 'P' => some '\u2029'
  | _ => none

/-- How many hexadecimal digits an escape takes. -/
def hexLength? (c : Char) : Option Nat :=
  match c with
  | 'x' => some 2
  | 'u' => some 4
  | 'U' => some 8
  | _ => none

/-- The character of an escape that begins here with its backslash. -/
def takeEscape (c : Cursor) : Option (Char × Cursor) :=
  match escaped? (c.peekAt 1) with
  | some x => some (x, c.take 2)
  | none => do
      let n ← hexLength? (c.peekAt 1)
      let ds := (c.rest.drop 2).take n
      if ds.length = n then do
        let value ← Json.hexValue? ds
        if value.isValidChar then some (Char.ofNat value, c.take (2 + n)) else none
      else none

/-- Takes the characters of a quoted scalar up to a gap, the closing quote or an
    escaped line break; the flag tells the last from the others. -/
def takeQuotedWord (single : Bool) :
    Nat → Cursor → List Char → Option (List Char × Bool × Cursor)
  | 0, _, _ => none
  | fuel + 1, c, word =>
      let x := c.peek
      if isGap x then some (word, false, c)
      else if single then
        if x = '\'' then
          if c.peekAt 1 = '\'' then takeQuotedWord single fuel (c.take 2) (word ++ ['\''])
          else some (word, false, c)
        else takeQuotedWord single fuel (c.take 1) (word ++ [x])
      else if x = '"' then some (word, false, c)
      else if x = '\\' then
        if isBreak (c.peekAt 1) then some (word, true, (c.take 1).newline)
        else do
          let (y, c) ← takeEscape c
          takeQuotedWord single fuel c (word ++ [y])
      else takeQuotedWord single fuel (c.take 1) (word ++ [x])

/-- Passes the blanks and breaks between two words of a quoted scalar.  `led`
    tells whether a line has been begun, where tabs must not indent. -/
def foldQuoted (indent : Int) : Nat → Cursor → Bool → Fold → Option (Fold × Cursor)
  | 0, _, _, _ => none
  | fuel + 1, c, led, f =>
      let x := c.peek
      if isBlank x then
        if led then
          if x = '\t' ∧ (c.column : Int) < indent then none
          else foldQuoted indent fuel (c.pass 1) led f
        else foldQuoted indent fuel (c.pass 1) led { f with blanks := f.blanks ++ [x] }
      else if isBreak x then
        if led then
          foldQuoted indent fuel c.newline led { f with more := f.more ++ ['\n'] }
        else foldQuoted indent fuel c.newline true ⟨[], true, f.more⟩
      else some (f, c)

/-- Takes a quoted scalar up to its closing quote, words and folds by turns. -/
def takeQuotedBody (single : Bool) (indent : Int) :
    Nat → Cursor → List Char → Option (List Char × Cursor)
  | 0, _, _ => none
  | fuel + 1, c, text =>
      if c.column = 0 ∧ c.atAnyMarker then none
      else if c.atEnd then none
      else if (c.column : Int) < indent then none
      else do
        let (text, joined, c) ← takeQuotedWord single (c.rest.length + 1) c text
        if c.peek = (if single then '\'' else '"') then some (text, c.take 1)
        else
          let (f, c) ← foldQuoted indent (c.rest.length + 1) c joined Fold.none
          takeQuotedBody single indent fuel c (text ++ f.text)

/-- A quoted scalar.  In block context it may be a key only on one line, and
    nothing but a comment may follow it on its line otherwise. -/
def takeQuoted (single inFlow : Bool) (indent : Int) (c : Cursor) :
    Option (List Char × Cursor) := do
  let line := c.line
  let (text, c) ← takeQuotedBody single indent (c.rest.length + 1) (c.take 1) []
  let (c, _) ← c.skipBlanks true
  let x := c.peek
  let fine :=
    isLineEnd x
      || (inFlow && (x = ',' || x = '}' || x = ']' || x = ':'))
      || (!inFlow && x = ':' && c.line = line)
  if fine then some (text, c) else none

/-! ## Plain scalars -/

/-- The next character may stand in a plain scalar. -/
def plainNext (inFlow : Bool) (c : Cursor) : Bool :=
  let x := c.peek
  let y := c.peekAt 1
  if x = ':' then !(isGap y || (inFlow && isFlow y)) else !(inFlow && isFlow x)

/-- Takes a word of a plain scalar. -/
def takePlainWord (inFlow : Bool) : Nat → Cursor → List Char → List Char × Cursor
  | 0, c, word => (word, c)
  | fuel + 1, c, word =>
      if isGap c.peek || !plainNext inFlow c then (word, c)
      else takePlainWord inFlow fuel (c.take 1) (word ++ [c.peek])

/-- Passes the blanks and breaks between two words of a plain scalar.  A tab
    must not indent a line that has content. -/
def foldPlain (indent : Int) : Nat → Cursor → Fold → Option (Fold × Cursor)
  | 0, _, _ => none
  | fuel + 1, c, f =>
      let x := c.peek
      if isBlank x then
        if !c.fresh then
          foldPlain indent fuel (c.pass 1) { f with blanks := f.blanks ++ [x] }
        else if (c.column : Int) < indent ∧ x = '\t' then do
          let (c, _) ← c.skipBlanks true
          if isLineEnd c.peek then foldPlain indent fuel c f else none
        else foldPlain indent fuel (c.pass 1) f
      else if isBreak x then
        if c.fresh then foldPlain indent fuel c.newline { f with more := f.more ++ ['\n'] }
        else foldPlain indent fuel c.newline ⟨[], true, f.more⟩
      else some (f, c)

/-- Takes the words of a plain scalar that stand behind the fold `f`. -/
def takePlainBody (inFlow : Bool) (indent : Int) :
    Nat → Cursor → List Char → Fold → Option (List Char × Cursor)
  | 0, _, _, _ => none
  | fuel + 1, c, text, f =>
      if (c.fresh ∧ c.atAnyMarker) ∨ c.peek = '#' then some (text, c)
      else if inFlow ∧ c.peek = '-' ∧ isFlow (c.peekAt 1) then none
      else
        let more := !isGap c.peek && plainNext inFlow c
        let (word, c) :=
          if more then takePlainWord inFlow (c.rest.length + 1) c [] else ([], c)
        let text := if more then text ++ f.text ++ word else text
        let f := if more then Fold.none else f
        if isBlank c.peek || isBreak c.peek then do
          let (f, c) ← foldPlain indent (c.rest.length + 1) c f
          if !inFlow && (c.column : Int) < indent then some (text, c)
          else takePlainBody inFlow indent fuel c text f
        else some (text, c)

/-- A plain scalar inside blocks indented by `indent`; it is never empty. -/
def takePlain (inFlow : Bool) (indent : Int) (c : Cursor) :
    Option (List Char × Cursor) := do
  if inFlow ∧ (c.column : Int) < indent + 1 then none
  else
    let (text, c) ←
      takePlainBody inFlow (indent + 1) (c.rest.length + 1) c [] Fold.none
    if text = [] then none else some (text, c)

/-! ## Block scalars -/

/-- What becomes of the line breaks at the end of a block scalar. -/
inductive Chomping where
  | strip
  | clip
  | keep
deriving DecidableEq, Repr

/-- The chomping and the indentation that follow the indicator, in either
    order; an indentation of zero is refused. -/
def takeHeader (c : Cursor) : Option (Chomping × Nat × Cursor) :=
  let chomping (c : Cursor) : Chomping × Cursor :=
    if c.peek = '+' then (.keep, c.take 1)
    else if c.peek = '-' then (.strip, c.take 1)
    else (.clip, c)
  let increment (c : Cursor) : Option (Nat × Cursor) :=
    if c.peek.isDigit then
      if c.peek = '0' then none else some (c.peek.toNat - '0'.toNat, c.take 1)
    else some (0, c)
  if c.peek = '+' ∨ c.peek = '-' then do
    let (ch, c) := chomping c
    let (n, c) ← increment c
    some (ch, n, c)
  else do
    let (n, c) ← increment c
    if n = 0 then some (.clip, 0, c)
    else
      let (ch, c) := chomping c
      some (ch, n, c)

/-- Passes up to `indent` columns of spaces, and empty lines on the way, which
    are collected. -/
def skipIndent (indent : Nat) : Nat → Cursor → List Char → List Char × Cursor
  | 0, c, breaks => (breaks, c)
  | fuel + 1, c, breaks =>
      let spaces := (c.rest.take (indent - c.column)).takeWhile (· = ' ')
      let c := c.pass spaces.length
      if isBreak c.peek then skipIndent indent fuel c.newline (breaks ++ ['\n'])
      else (breaks, c)

/-- Passes all spaces before the first line with content, and the empty lines
    on the way; the widest indentation seen is kept. -/
def findIndent : Nat → Cursor → Nat → List Char → Nat × List Char × Cursor
  | 0, c, widest, breaks => (widest, breaks, c)
  | fuel + 1, c, widest, breaks =>
      let c := c.pass (c.rest.takeWhile (· = ' ')).length
      let widest := max widest c.column
      if isBreak c.peek then findIndent fuel c.newline widest (breaks ++ ['\n'])
      else (widest, breaks, c)

/-- The lines of a block scalar so far. -/
structure BlockLines where
  text : List Char
  /-- The break that ended the last line. -/
  lead : List Char
  /-- Breaks of empty lines since. -/
  trail : List Char
  /-- The last line began with a blank. -/
  blank : Bool

/-- Takes the lines of a block scalar that are indented by `indent`. -/
def takeLines (literal : Bool) (indent : Nat) :
    Nat → Cursor → BlockLines → BlockLines × Cursor
  | 0, c, b => (b, c)
  | fuel + 1, c, b =>
      if c.column ≠ indent ∨ c.atEnd ∨ (indent = 0 ∧ c.atMarker '.') then (b, c)
      else
        let blank := isBlank c.peek
        let glue :=
          if !literal && b.lead ≠ [] && !b.blank && !blank then
            if b.trail = [] then [' '] else b.trail
          else b.lead ++ b.trail
        let line := c.rest.takeWhile fun x => !isBreak x
        let c := c.take line.length
        let text := b.text ++ glue ++ line
        if c.atEnd then (⟨text, [], [], blank⟩, c)
        else
          let (trail, c) := skipIndent indent (c.rest.length + 1) c.newline []
          takeLines literal indent fuel c ⟨text, ['\n'], trail, blank⟩

/-- A block scalar inside blocks indented by `outer`, and its own indentation. -/
def takeBlock (literal : Bool) (outer : Int) (c : Cursor) :
    Option (List Char × Nat × Cursor) := do
  let line := c.line
  let (chomping, increment, c) ← takeHeader (c.take 1)
  let (c, _) ← c.skipBlanks true
  if !isLineEnd c.peek then none
  else
    let first := if isBreak c.peek then ['\n'] else []
    let c := if isBreak c.peek then c.newline else c
    if c.peek = '\t' then none
    else
      let given : Nat :=
        if increment = 0 then 0
        else if 0 ≤ outer then outer.toNat + increment else increment
      let (indent, trail, c) : Nat × List Char × Cursor :=
        if given = 0 then
          let (widest, trail, c) := findIndent (c.rest.length + 1) c 0 []
          let found := max widest (outer + 1).toNat
          (if 0 < outer then max found 1 else found, trail, c)
        else
          let (trail, c) := skipIndent given (c.rest.length + 1) c []
          (given, trail, c)
      if c.atEnd then
        let text := match chomping with
          | .strip => []
          | .clip => if c.line = line then [] else first
          | .keep =>
              if c.line = line then [] else if trail = [] then first else trail
        some (text, indent, c)
      else if c.column < indent ∧ outer < (c.column : Int) then none
      else
        let (b, c) :=
          takeLines literal indent (c.rest.length + 1) c ⟨[], [], trail, false⟩
        let last := if c.atEnd ∧ max indent 1 ≤ c.column then ['\n'] else []
        let text := match chomping with
          | .strip => b.text
          | .clip => b.text ++ b.lead ++ last
          | .keep => b.text ++ b.lead ++ last ++ b.trail
        some (text, indent, c)

end Fixture.Yaml
