import Fixture.Complex
import Fixture.Fault
import Fixture.Value

/-! # Scalars

    A scalar is converted from the text of a value, by the same grammar whether
    the text was typed in a cell or looked up. -/

namespace Fixture.Convert

/-- Reads the text of a value; why not, if it cannot be read. -/
def scalar {α : Type} (target : String) (read : List Char → Except String α)
    (v : Value) : Except Fault α :=
  match read v.render with
  | .ok x => .ok x
  | .error why => .error (.parse target v.text why)

variable {α : Type} {target : String} {read : List Char → Except String α} {v : Value}

theorem scalar_eq_ok_iff {x : α} : scalar target read v = .ok x ↔ read v.render = .ok x := by
  rw [scalar]
  cases read v.render with
  | ok y =>
      constructor
      · intro h
        rw [Except.ok.inj h]
      · intro h
        rw [Except.ok.inj h]
  | error why => exact iff_of_false (fun h => nomatch h) (fun h => nomatch h)

/-- What cannot be read is reported with the type and the whole text. -/
theorem scalar_eq_error_iff {fault : Fault} :
    scalar target read v = .error fault
      ↔ ∃ why, read v.render = .error why ∧ fault = .parse target v.text why := by
  rw [scalar]
  cases read v.render with
  | ok y => exact iff_of_false (fun h => nomatch h) (fun ⟨_, h, _⟩ => nomatch h)
  | error why =>
      constructor
      · intro h
        exact ⟨why, rfl, (Except.error.inj h).symm⟩
      · rintro ⟨why', hwhy, rfl⟩
        rw [Except.error.inj hwhy]

/-- What is said of a text outside a grammar with one kind of fault. -/
def invalidSyntax : String := "invalid syntax"

/-- The words for the truth values. -/
def readBool (s : List Char) : Except String Bool :=
  if String.ofList s ∈ ["1", "t", "T", "TRUE", "true", "True"] then .ok true
  else if String.ofList s ∈ ["0", "f", "F", "FALSE", "false", "False"] then .ok false
  else .error invalidSyntax

def bool : Value → Except Fault Bool := scalar "bool" readBool

def int (t : IntType) : Value → Except Fault Int :=
  scalar t.name fun s => (t.read s).mapError IntType.Fault.message

def readDouble (s : List Char) : Except String Binary64 :=
  (Literal.read s).mapError Literal.Fault.message

def double : Value → Except Fault Binary64 := scalar "f64" readDouble

/-- A double narrowed to single precision; a finite one must stay finite. -/
def readSingle (s : List Char) : Except String Binary32 := do
  let wide ← readDouble s
  let narrow : Binary32 := wide.convert
  if wide.isFinite ∧ narrow.isInfinite then .error "value out of range"
  else .ok narrow

def single : Value → Except Fault Binary32 := scalar "f32" readSingle

def complex : Value → Except Fault Complex :=
  scalar "Complex" fun s =>
    match Complex.read? s with
    | some z => .ok z
    | none => .error invalidSyntax

/-- Nothing for null, and otherwise what the inner conversion gives. -/
def optional {α : Type} (inner : Value → Except Fault α) (v : Value) :
    Except Fault (Option α) :=
  if v.isNull then .ok none else (inner v).map some

end Fixture.Convert
