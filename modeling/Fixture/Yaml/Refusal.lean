import Fixture.Text.Blank
import Fixture.Text.Search

/-! # Texts that are refused unread

    Three patterns are taken for faults before a text is split into tokens, so
    that it does not matter whether they stand in comments or quoted scalars. -/

namespace Fixture.Yaml.Refusal

/-- Two closing brackets with a space between them. -/
def hasGap (s : List Char) : Bool := (Text.cut? "] ]".toList s).isSome

/-- Two closing brackets in a row, in a text that closes more brackets than it
    opens. -/
def hasSurplus (s : List Char) : Bool :=
  (Text.cut? "]]".toList s).isSome && s.count '[' < s.count ']'

/-- What stands in front of the comment of a line, if the line has one. -/
def beforeComment? (line : List Char) : Option (List Char) :=
  if line.contains '#' then some (Text.trim (line.takeWhile (· ≠ '#'))) else none

/-- A line begins with text at the margin. -/
def isFlush (line : List Char) : Bool :=
  match line with
  | [] => false
  | c :: _ =>
      !Text.isBlank c && c ≠ '#' && line.take 3 ≠ ['-', '-', '-']
        && line.take 3 ≠ ['.', '.', '.']

/-- A comment ends a line that is neither an entry nor an item, and text at the
    margin follows on the next line. -/
def breaksOff (line next : List Char) : Bool :=
  match beforeComment? line with
  | none => false
  | some before =>
      before ≠ [] && !before.contains ':' && before.head? ≠ some '-' && isFlush next

/-- Two lines in a row satisfy `p`. -/
def anyPair (p : List Char → List Char → Bool) : List (List Char) → Bool
  | a :: b :: rest => p a b || anyPair p (b :: rest)
  | _ => false

/-- A comment breaks text off. -/
def hasBreak (s : List Char) : Bool := anyPair breaksOff (Text.splitOn '\n' s)

end Refusal

/-- The text is refused unread. -/
def isRefused (s : List Char) : Bool :=
  Refusal.hasGap s || Refusal.hasSurplus s || Refusal.hasBreak s

end Fixture.Yaml
