import Fixture.Derive.Grammar.Statement

/-! # The grammar of definitions

    The readers of a grammar are those of one that reads less deep. -/

namespace Fixture.Derive.Grammar

/-- Reads nothing. -/
def nothing : Grammar :=
  let fault {α : Type} : Reader α := Reader.missing "less"
  ⟨fun _ => fault, fault, fun _ => fault, fun _ => fault, fun _ => fault, fault, fault⟩

/-- Reads what is no deeper than some depth. -/
def ofDepth : Nat → Grammar
  | 0 => nothing
  | depth + 1 =>
      let g := ofDepth depth
      ⟨g.readType, g.readArgument, g.readExpression, g.readOperand, g.readAtom, g.readPattern,
        g.readBlock⟩

/-- Reads everything that consists of some tokens: no reader calls more than
    three others before it takes a token. -/
def ofTokens (ts : List Token) : Grammar := ofDepth (4 * Token.sizeAll ts + 4)

end Fixture.Derive.Grammar
