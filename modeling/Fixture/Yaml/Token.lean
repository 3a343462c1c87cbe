import Fixture.Yaml.Scalar

/-! # Tokens of a YAML text

    Tokens are the marks and scalars of a text together with the starts and
    ends of blocks, which a text shows only by its indentation.  That a scalar
    is the key of a mapping is seen at the colon behind it, so the marks of its
    mapping and key are put in front of it then.

    The last token of a text marks its end.  A text that breaks off with a fault
    has the tokens before it and no such mark. -/

namespace Fixture.Yaml

/-- How a scalar is written. -/
inductive Form where
  | plain
  | quoted
  | literal
  /-- A folded block, and whether its text stands at the margin. -/
  | folded (flush : Bool)
deriving DecidableEq, Repr

/-- A token. -/
inductive Token where
  | versionDirective
  | tagDirective (handle start : List Char)
  | documentStart
  | documentEnd
  | blockSequenceStart
  | blockMappingStart
  | blockEnd
  | flowSequenceStart
  | flowSequenceEnd
  | flowMappingStart
  | flowMappingEnd
  | blockEntry
  | flowEntry
  | key
  | value
  | anchor (name : List Char)
  | alias (name : List Char)
  | tag (handle suffix : List Char)
  | scalar (form : Form) (text : List Char)
  | textEnd
deriving DecidableEq, Repr

/-- A place where a key without a mark of its own may have begun. -/
structure KeyStart where
  possible : Bool
  /-- Nothing but a key can stand there. -/
  required : Bool
  /-- How many tokens stand before it. -/
  position : Nat
  index : Nat
  line : Nat
  column : Nat
deriving Repr

namespace KeyStart

def never : KeyStart := ⟨false, false, 0, 0, 0, 0⟩

end KeyStart

/-- An open level of indentation: the column outside of it, and whether its end
    is the end of a block. -/
structure Level where
  outer : Int
  block : Bool
deriving Repr

/-- How far a text has been split into tokens. -/
structure Scanner where
  cursor : Cursor
  tokens : List Token
  /-- The column of the innermost level, -1 outside of all. -/
  indent : Int
  levels : List Level
  /-- Possible starts of keys, one for each open flow collection and one for the
      blocks, innermost first. -/
  keys : List KeyStart
  /-- A key may begin at the next token. -/
  keyAllowed : Bool
  /-- How many flow collections are open. -/
  depth : Nat
  /-- For each open flow sequence, innermost first, the depth at which a mapping
      without braces has begun as one of its items. -/
  pairs : List (Option Nat)
  /-- A brace or the mark of a key has begun a flow mapping, so that no mapping
      without braces begins. -/
  braced : Bool
  /-- Where a value may follow its colon without a blank. -/
  adjacentAt : Nat
  /-- The column of the last token, if that is an anchor or a tag. -/
  property : Option Nat

namespace Scanner

def start (s : List Char) : Scanner :=
  { cursor := Cursor.start s
    tokens := []
    indent := -1
    levels := []
    keys := [KeyStart.never]
    keyAllowed := true
    depth := 0
    pairs := []
    braced := false
    adjacentAt := 0
    property := none }

def inFlow (s : Scanner) : Bool := 0 < s.depth

def push (s : Scanner) (t : Token) : Scanner :=
  { s with tokens := s.tokens ++ [t], property := none }

/-- Puts a token behind the first `n`. -/
def insert (s : Scanner) (n : Nat) (t : Token) : Scanner :=
  { s with tokens := s.tokens.take n ++ t :: s.tokens.drop n }

def place (s : Scanner) (c : Cursor) : Scanner := { s with cursor := c }

/-! ## Indentation -/

/-- Opens a block at a column unless one is open there already; its mark goes
    behind the first `position` tokens. -/
def roll (s : Scanner) (column : Nat) (position : Nat) (mark : Token) : Scanner :=
  if s.inFlow then s
  else
    let s : Scanner := match s.levels with
      | level :: levels =>
          if s.indent ≤ column ∧ !level.block then
            { s with indent := level.outer, levels := levels }
          else s
      | [] => s
    if s.indent < column then
      let s : Scanner :=
        { s with indent := (column : Int), levels := ⟨s.indent, true⟩ :: s.levels }
      s.insert position mark
    else s

/-- Closes the levels that are indented by more than `column`. -/
def unrollLevels (column : Int) :
    List Level → Int → List Token → List Level × Int × List Token
  | [], indent, tokens => ([], indent, tokens)
  | level :: levels, indent, tokens =>
      if column < indent then
        unrollLevels column levels level.outer
          (if level.block then tokens ++ [.blockEnd] else tokens)
      else (level :: levels, indent, tokens)

def unroll (s : Scanner) (column : Int) : Scanner :=
  if s.inFlow then s
  else
    let (levels, indent, tokens) := unrollLevels column s.levels s.indent s.tokens
    { s with levels := levels, indent := indent, tokens := tokens }

/-- Opens a level one column deeper that is no block. -/
def deepen (s : Scanner) : Scanner :=
  match s.levels with
  | level :: _ =>
      if !s.inFlow && level.block then
        { s with indent := s.indent + 1, levels := ⟨s.indent, false⟩ :: s.levels }
      else s
  | [] => s

/-- Closes the innermost levels that are no blocks. -/
def shallow (s : Scanner) : Scanner :=
  let closed := s.levels.takeWhile fun l => !l.block
  match closed.getLast? with
  | some level => { s with indent := level.outer, levels := s.levels.drop closed.length }
  | none => s

/-! ## Possible keys -/

/-- Gives up the possible keys that the text has left behind: outside flow
    collections a key stays on its line and is at most 1024 characters long. -/
def staleKeys (s : Scanner) : Option Scanner :=
  let stale (k : KeyStart) : Bool :=
    k.possible && !s.inFlow
      && (k.line < s.cursor.line || k.index + 1024 < s.cursor.index)
  if s.keys.any fun k => stale k && k.required then none
  else some { s with
    keys := s.keys.map fun k => if stale k then { k with possible := false } else k }

/-- A key may begin here. -/
def saveKey (s : Scanner) : Scanner :=
  if s.keyAllowed then
    let required :=
      !s.inFlow && s.indent = s.cursor.column
        && (match s.levels with | level :: _ => level.block | [] => false)
    { s with
      keys :=
        ⟨true, required, s.tokens.length, s.cursor.index, s.cursor.line, s.cursor.column⟩
          :: s.keys.drop 1 }
  else s

/-- The innermost possible key is none after all. -/
def dropKey (s : Scanner) : Option Scanner :=
  match s.keys with
  | k :: keys =>
      if k.possible && k.required then none
      else some { s with keys := { k with possible := false } :: keys }
  | [] => some s

def allowKey (s : Scanner) : Scanner := { s with keyAllowed := true }

def forbidKey (s : Scanner) : Scanner := { s with keyAllowed := false }

/-! ## Between tokens -/

/-- Passes blanks, breaks and comments.  Outside flow collections a key may
    begin on a new line.  A tab must not indent content inside a block. -/
def skipToToken : Nat → Scanner → Option Scanner
  | 0, s => some s
  | fuel + 1, s =>
      let c := s.cursor
      let x := c.peek
      if x = '\t' ∧ !s.levels.isEmpty ∧ c.fresh ∧ (c.column : Int) < s.indent then do
        let (c, _) ← c.skipBlanks true
        if isLineEnd c.peek then skipToToken fuel (s.place c) else none
      else if isBlank x then skipToToken fuel (s.place (c.pass 1))
      else if isBreak x then
        let s := s.place c.newline
        skipToToken fuel (if s.inFlow then s else s.allowKey)
      else if x = '#' then skipToToken fuel (s.place c.toBreak)
      else some s

/-- Passes blanks to the end of the line behind a mark. -/
def skipBlanks (s : Scanner) : Option Scanner := do
  let (c, _) ← s.cursor.skipBlanks true
  some (s.place c)

/-! ## Marks of flow collections -/

/-- Ends the mapping without braces that the innermost sequence has as its
    item, if it has one at this depth. -/
def endPair (s : Scanner) : Scanner :=
  if s.pairs.head? = some (some s.depth) then
    { s.push .flowMappingEnd with pairs := none :: s.pairs.drop 1, braced := false }
  else s

def openFlow (s : Scanner) (isSequence : Bool) : Option Scanner := do
  let s := s.saveKey
  let s := (s.place (s.cursor.take 1)).deepen
  if s.depth = 255 then none
  else
    let s : Scanner := { s with depth := s.depth + 1, keys := KeyStart.never :: s.keys }
    let s : Scanner :=
      if isSequence then { s with pairs := none :: s.pairs } else { s with braced := true }
    let s ← s.allowKey.skipBlanks
    some (s.push (if isSequence then .flowSequenceStart else .flowMappingStart))

/-- A closing mark.  One that closes nothing is a token all the same. -/
def closeFlow (s : Scanner) (isSequence : Bool) : Option Scanner := do
  let s ← s.dropKey
  let s : Scanner :=
    if isSequence then { s.endPair with pairs := s.pairs.drop 1 } else s
  let s : Scanner :=
    if s.inFlow then { s with depth := s.depth - 1, keys := s.keys.drop 1 } else s
  let s ← (s.forbidKey.place (s.cursor.take 1)).skipBlanks
  let s : Scanner := if s.inFlow then { s with adjacentAt := s.cursor.index } else s
  some (s.push (if isSequence then .flowSequenceEnd else .flowMappingEnd))

def flowEntry (s : Scanner) : Option Scanner := do
  let s ← s.dropKey
  let s ← (s.allowKey.endPair.place (s.cursor.take 1)).skipBlanks
  some (s.push .flowEntry)

/-! ## Marks of blocks -/

def blockEntry (s : Scanner) : Option Scanner := do
  let column := s.cursor.column
  if s.inFlow || !s.keyAllowed then none
  else if column = 0 ∧ s.property = some 0 ∧ -1 < s.indent then none
  else
    let s := (s.place (s.cursor.take 1)).roll column s.tokens.length .blockSequenceStart
    let (c, blanks) ← s.cursor.skipBlanks true
    if blanks.tabs ∧ c.peek = '-' ∧ isGap (c.peekAt 1) then none
    else
      let (c, _) ← c.skipBlanks false
      let s := s.place c
      let s := if isBreak c.peek || isFlow c.peek then s.deepen else s
      let s ← s.dropKey
      some (s.allowKey.push .blockEntry)

/-- Passes spaces, breaks and comments, of which there must be one. -/
def skipSpaces : Nat → Scanner → Bool → Option Scanner
  | 0, s, _ => some s
  | fuel + 1, s, any =>
      let c := s.cursor
      let x := c.peek
      if x = ' ' then skipSpaces fuel (s.place (c.pass 1)) true
      else if isBreak x then
        let s := s.place c.newline
        skipSpaces fuel (if s.inFlow then s else s.allowKey) true
      else if x = '#' then skipSpaces fuel (s.place c.toBreak) any
      else if any then some s
      else none

/-- The mark of a key. -/
def explicitKey (s : Scanner) : Option Scanner := do
  if !s.inFlow && !s.keyAllowed then none
  else
    let s : Scanner :=
      if s.inFlow then { s with braced := true }
      else s.roll s.cursor.column s.tokens.length .blockMappingStart
    let s ← s.dropKey
    let s := if s.inFlow then s.forbidKey else s.allowKey
    let s := s.place (s.cursor.take 1)
    let s ← skipSpaces (s.cursor.rest.length + 1) s false
    if s.cursor.peek = '\t' then none else some (s.push .key)

/-- The mark of a value.  If a key may have begun before it, that was one.
    Directly in a flow sequence it belongs to a mapping without braces, whose
    key must not be on an earlier line. -/
def valueMark (s : Scanner) : Option Scanner := do
  let line := s.cursor.line
  let column := s.cursor.column
  let k := s.keys.headD KeyStart.never
  let pair := !s.pairs.isEmpty && !s.braced
  let s : Scanner := if pair then { s with pairs := some s.depth :: s.pairs.drop 1 } else s
  let c := s.cursor.take 1
  let c ←
    if c.peek = '\t' then do
      let (c, blanks) ← c.skipBlanks true
      if !blanks.spaces && (c.peek = '-' || isWord c.peek) then none else some c
    else some c
  let s := s.place c
  if k.possible then
    if pair && k.line < line then none
    else
      let s := s.insert k.position .key
      let s := if pair then s.insert k.position .flowMappingStart else s
      let s := (s.roll k.column k.position .blockMappingStart).deepen
      let s : Scanner :=
        { s with keys := { k with possible := false } :: s.keys.drop 1 }
      some (s.forbidKey.push .value)
  else
    let s := if pair then s.push .flowMappingStart else s
    if s.inFlow then some (s.forbidKey.push .value)
    else if !s.keyAllowed then none
    else
      let s := (s.roll column s.tokens.length .blockMappingStart).deepen
      some (s.allowKey.push .value)

/-- The mark of a value inside a flow collection, where a bracket may follow at
    once only behind a quoted key or a collection. -/
def flowValueMark (s : Scanner) : Option Scanner :=
  let y := s.cursor.peekAt 1
  if s.cursor.index ≠ s.adjacentAt ∧ (y = '[' ∨ y = '{') then none else s.valueMark

/-! ## Marks of documents -/

def documentMark (s : Scanner) (t : Token) : Option Scanner := do
  if s.inFlow then none
  else
    let s ← (s.unroll (-1)).dropKey
    some ((s.forbidKey.place (s.cursor.take 3)).push t)

/-- Blanks that may stand inside a directive. -/
def passBlanks (c : Cursor) : Cursor := c.pass (c.rest.takeWhile isBlank).length

/-- Passes a run of one to nine digits. -/
def passDigits (c : Cursor) : Option Cursor :=
  let n := (c.rest.takeWhile Char.isDigit).length
  if n = 0 ∨ 9 < n then none else some (c.take n)

/-- A character of a tag behind its handle. -/
def isTagChar (c : Char) : Bool :=
  c.isAlphanum || c = '-' || "#;/?:@&=+$_.~*'()%".contains c

/-- A byte written by two hexadecimal digits behind a percent sign. -/
def takeByte (c : Cursor) : Option (UInt8 × Cursor) := do
  if c.peek = '%' then
    let high ← Json.hexDigit? (c.peekAt 1)
    let low ← Json.hexDigit? (c.peekAt 2)
    some (UInt8.ofNat (16 * high + low), c.take 3)
  else none

/-- A character written by the escaped bytes of its encoding. -/
def takeBytes (c : Cursor) : Option (Char × Cursor) := do
  let (first, c₁) ← takeByte c
  let n := first.toNat
  if n < 0x80 then some (Char.ofNat n, c₁)
  else
    let (second, c₂) ← takeByte c₁
    let more (c : Cursor) : Option (Nat × Cursor) := do
      let (b, c) ← takeByte c
      if 0x80 ≤ b.toNat ∧ b.toNat < 0xC0 then some (b.toNat - 0x80, c) else none
    if second.toNat < 0x80 ∨ 0xC0 ≤ second.toNat then none
    else
      let m := second.toNat - 0x80
      if 0xC0 ≤ n ∧ n < 0xE0 then some (Char.ofNat ((n - 0xC0) * 64 + m), c₂)
      else if n < 0xF0 then do
        let (x, c) ← more c₂
        some (Char.ofNat (((n - 0xE0) * 64 + m) * 64 + x), c)
      else do
        let (x, c) ← more c₂
        let (y, c) ← more c
        some (Char.ofNat ((((n - 0xF0) * 64 + m) * 64 + x) * 64 + y), c)

/-- The characters of a tag that satisfy `ok`, with escapes decoded. -/
def takeTagChars (ok : Char → Bool) :
    Nat → Cursor → List Char → Option (List Char × Cursor)
  | 0, c, text => some (text, c)
  | fuel + 1, c, text =>
      let x := c.peek
      if !c.atEnd && ok x then
        if x = '%' then do
          let (y, c) ← takeBytes c
          takeTagChars ok fuel c (text ++ [y])
        else takeTagChars ok fuel (c.take 1) (text ++ [x])
      else some (text, c)

/-- The handle of a tag: `!`, a word and perhaps another `!`.  In a directive
    the second `!` is missing only from the handle `!` itself. -/
def takeHandle (directive : Bool) (c : Cursor) : Option (List Char × Cursor) :=
  if c.peek ≠ '!' then none
  else
    let word := (c.rest.drop 1).takeWhile isWord
    let c := c.take (1 + word.length)
    if c.peek = '!' then some ('!' :: word ++ ['!'], c.take 1)
    else if directive ∧ word ≠ [] then none
    else some ('!' :: word, c)

/-- A tag: verbatim between `<` and `>`, or a handle and a suffix. -/
def takeTag (inFlow : Bool) (c : Cursor) : Option (Token × Cursor) := do
  let (t, c) ←
    if c.peekAt 1 = '<' then do
      let (text, c) ←
        takeTagChars (fun x => isTagChar x || isFlow x || x = '!') (c.rest.length + 1)
          (c.take 2) []
      if text ≠ [] ∧ c.peek = '>' then some (Token.tag [] text, c.take 1) else none
    else do
      let (handle, c) ← takeHandle false c
      let named := 2 ≤ handle.length ∧ handle.getLast? = some '!'
      let (suffix, c) ← takeTagChars isTagChar (c.rest.length + 1) c []
      if named then
        if suffix = [] then none else some (Token.tag handle suffix, c)
      else
        let suffix := handle.drop 1 ++ suffix
        if suffix = [] then some (Token.tag [] ['!'], c)
        else some (Token.tag ['!'] suffix, c)
  if isGap c.peek || (inFlow && isFlow c.peek) then some (t, c) else none

/-- A directive, up to the end of its line. -/
def directive (s : Scanner) : Option Scanner := do
  let s ← (s.unroll (-1)).dropKey
  let c := s.forbidKey.cursor.take 1
  let name := c.rest.takeWhile isWord
  let c := c.take name.length
  if name = [] ∨ !isGap c.peek then none
  else
    let (t, c) ←
      if name = "YAML".toList then do
        let c ← passDigits (passBlanks c)
        if c.peek = '.' then do
          let c ← passDigits (c.take 1)
          some (Token.versionDirective, c)
        else none
      else if name = "TAG".toList then do
        let (handle, c) ← takeHandle true (passBlanks c)
        let c := passBlanks c
        let first := c.peek
        if first = '!' ∨ (isTagChar first ∧ !c.atEnd) then do
          let (text, c) ←
            takeTagChars (fun x => isTagChar x || isFlow x || x = '!')
              (c.rest.length + 1) c []
          if isGap c.peek then some (Token.tagDirective handle text, c) else none
        else none
      else some (Token.tagDirective [] [], c.toBreak)
    let (c, _) ← c.skipBlanks true
    if isLineEnd c.peek then
      some ((s.forbidKey.place (if isBreak c.peek then c.newline else c)).push t)
    else none

/-! ## Content -/

/-- A character of the name of an anchor. -/
def isNameChar (x : Char) : Bool := !(isGap x || isFlow x || x = '\ufeff')

/-- An anchor or an alias. -/
def named (s : Scanner) (mark : List Char → Token) : Option Scanner :=
  let s := s.saveKey.forbidKey
  let name := (s.cursor.rest.drop 1).takeWhile isNameChar
  if name = [] then none
  else some ((s.place (s.cursor.take (1 + name.length))).push (mark name))

def anchored (s : Scanner) : Option Scanner := do
  let column := s.cursor.column
  let s ← s.named .anchor
  some { s with property := some column }

def tagged (s : Scanner) : Option Scanner := do
  let column := s.cursor.column
  let s := s.saveKey.forbidKey
  let (t, c) ← takeTag s.inFlow s.cursor
  some { (s.place c).push t with property := some column }

def blockScalar (s : Scanner) (literal : Bool) : Option Scanner := do
  let s := s.saveKey.allowKey.shallow
  let (text, indent, c) ← takeBlock literal s.indent s.cursor
  some ((s.place c).push (.scalar (if literal then .literal else .folded (indent = 0)) text))

def quotedScalar (s : Scanner) (single : Bool) : Option Scanner := do
  let s := s.saveKey.forbidKey
  let (text, c) ← takeQuoted single s.inFlow s.indent s.cursor
  let s ← skipToToken (c.rest.length + 1) (s.place c)
  some { s.push (.scalar .quoted text) with adjacentAt := s.cursor.index }

def plainScalar (s : Scanner) : Option Scanner := do
  let s := s.saveKey.forbidKey.shallow
  let (text, c) ← takePlain s.inFlow s.indent s.cursor
  let s := s.place c
  some ((if c.fresh then s.allowKey else s).push (.scalar .plain text))

/-! ## Splitting a text -/

/-- Takes the token that begins here. -/
def content (s : Scanner) : Option Scanner :=
  let c := s.cursor
  let x := c.peek
  let y := c.peekAt 1
  if x = '[' then s.openFlow true
  else if x = '{' then s.openFlow false
  else if x = ']' then s.closeFlow true
  else if x = '}' then s.closeFlow false
  else if x = ',' then s.flowEntry
  else if x = '-' ∧ isGap y then s.blockEntry
  else if x = '?' ∧ isGap y then s.explicitKey
  else if x = ':' ∧ isGap y then s.valueMark
  else if x = ':' ∧ s.inFlow ∧ (isFlow y ∨ c.index = s.adjacentAt) then s.flowValueMark
  else if x = '*' then s.named .alias
  else if x = '&' then s.anchored
  else if x = '!' then s.tagged
  else if x = '|' ∧ !s.inFlow then s.blockScalar true
  else if x = '>' ∧ !s.inFlow then s.blockScalar false
  else if x = '\'' then s.quotedScalar true
  else if x = '"' then s.quotedScalar false
  else if x = '%' ∨ x = '@' ∨ x = '\x60' then none
  else s.plainScalar

/-- Closes everything at the end of the text. -/
def finish (s : Scanner) : Option Scanner :=
  if s.keys.any fun k => k.required && k.possible then none
  else some ((s.unroll (-1)).push .textEnd)

/-- Takes the token, or the mark of a document, that begins here. -/
def next (s : Scanner) : Option Scanner :=
  let c := s.cursor
  if c.column = 0 ∧ c.peek = '%' then s.directive
  else if c.column = 0 ∧ c.atMarker '-' then s.documentMark .documentStart
  else if c.column = 0 ∧ c.atMarker '.' then do
    let s ← s.documentMark .documentEnd
    let s ← s.skipBlanks
    if isLineEnd s.cursor.peek then some s else none
  else if (c.column : Int) < s.indent then none
  else s.content

/-- Takes the next token, or the end of the text, which the flag tells from it. -/
def step (s : Scanner) : Option (Scanner × Bool) := do
  let s ← skipToToken (s.cursor.rest.length + 1) s >>= staleKeys
  let s := s.unroll s.cursor.column
  if s.cursor.atEnd then s.finish.map fun s => (s, true)
  else s.next.map fun s => (s, false)

/-- The tokens that are certain: whether something is put in front of a token
    that may be a key is known only further on. -/
def settled (s : Scanner) : List Token :=
  let open? := ((s.staleKeys.getD s).keys.filter (·.possible)).map (·.position)
  s.tokens.take (open?.foldl min s.tokens.length)

/-- Takes tokens until the text ends or breaks off.  Every step takes at least
    one character. -/
def run : Nat → Scanner → List Token
  | 0, s => s.tokens
  | fuel + 1, s =>
      match s.step with
      | none => s.settled
      | some (s, true) => s.tokens
      | some (s, false) => run fuel s

end Scanner

/-- The tokens of a text. -/
def Token.scan (s : List Char) : List Token :=
  Scanner.run (s.length + 2) (Scanner.start s)

end Fixture.Yaml
