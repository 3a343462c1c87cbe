import Fixture.Value
import Fixture.Text.Search

/-! # Sentinels

    Four literals that stand for native values when they are a whole cell, and
    for a short text inside a longer one. -/

namespace Fixture

inductive Sentinel where
  | truth
  | falsity
  | null
  | empty
deriving DecidableEq, Repr

namespace Sentinel

/-- The order in which sentinels inside a text are replaced. -/
def order : List Sentinel := [.truth, .falsity, .null, .empty]

def literal : Sentinel → List Char
  | .truth => "[TRUE]".toList
  | .falsity => "[FALSE]".toList
  | .null => "[NULL]".toList
  | .empty => "[EMPTY]".toList

/-- The value of a cell that is just the literal. -/
def value : Sentinel → Value
  | .truth => .bool true
  | .falsity => .bool false
  | .null => .null
  | .empty => .string ""

/-- The text of the literal inside a longer text. -/
def inline : Sentinel → List Char
  | .truth => "true".toList
  | .falsity => "false".toList
  | .null => "null".toList
  | .empty => []

/-- The sentinel that a whole text is. -/
def ofText? (s : List Char) : Option Sentinel :=
  order.find? fun sentinel => sentinel.literal = s

/-- Replaces the literals inside a text, one sentinel after another. -/
def inlineAll (s : List Char) : List Char :=
  order.foldl (fun s sentinel => Text.replaceAll sentinel.literal sentinel.inline s) s

end Sentinel

end Fixture
