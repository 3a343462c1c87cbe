import Fixture.Assoc
import Fixture.Record.Bindable
import Fixture.Tag.Resolver

/-! # Tables

    A table is a list of rows of cells.  A binder turns a whole table into a
    map, a column or records, or stops at the first row it cannot use; cells
    are resolved on the way. -/

namespace Fixture

/-- Rows of cells. -/
abbrev Table := List (List String)

/-- How a binder ends without a result. -/
inductive Halt where
  | fault (f : Fault)
  | overflow (o : Overflow)
deriving DecidableEq, Repr

namespace Resolver

/-- Resolves a cell for a binder. -/
def cell (r : Resolver) (text : String) : Except Halt Value :=
  (r.resolve text).mapError .overflow

/-- Resolves a cell to its text for a binder. -/
def cellText (r : Resolver) (text : String) : Except Halt String :=
  (r.resolveText text).mapError .overflow

end Resolver

namespace Table

/-- The two cells of a row; `index` is its place in the table. -/
def pair (index : Nat) (row : List String) : Except Halt (String × String) :=
  match row with
  | [key, value] => .ok (key, value)
  | _ => .error (.fault (.tableShape index 2 row.length))

theorem pair_eq_ok_iff {index : Nat} {row : List String} {key value : String} :
    pair index row = .ok (key, value) ↔ row = [key, value] := by
  match row with
  | [a, b] =>
      constructor
      · intro h
        obtain ⟨rfl, rfl⟩ := Prod.mk.inj (Except.ok.inj h)
        rfl
      · rintro ⟨rfl, rfl⟩
        rfl
  | [] | [_] | _ :: _ :: _ :: _ => exact iff_of_false (fun h => nomatch h) (fun h => nomatch h)

theorem pair_of_length_ne {index : Nat} {row : List String} (h : row.length ≠ 2) :
    pair index row = .error (.fault (.tableShape index 2 row.length)) := by
  match row with
  | [_, _] => exact absurd rfl h
  | [] | [_] | _ :: _ :: _ :: _ => rfl

/-- The entry of a map that a row gives. -/
def entry (r : Resolver) (index : Nat) (row : List String) :
    Except Halt (String × Value) := do
  let (key, value) ← pair index row
  let value ← r.cell value
  .ok (key, value)

/-- A map from the first cells as they stand to the resolved second ones; a
    repeated key keeps its last value. -/
def toMap (r : Resolver) (t : Table) : Except Halt (Assoc Value) := do
  let entries ← t.zipIdx.mapM fun (row, index) => entry r index row
  .ok (Assoc.ofList entries)

/-- Adds the texts of a row to a map of lists, in place. -/
def collect (r : Resolver) (index : Nat) (row : List String) :
    Edit Halt (Assoc (List String)) Unit := do
  let (key, value) ← pair index row
  let key ← r.cellText key
  let value ← r.cellText value
  modify (Assoc.push key value)

/-- A map from the texts of the first cells to the texts of all second cells
    beside them, in row order. -/
def toMultiMap (r : Resolver) (t : Table) : Except Halt (Assoc (List String)) :=
  Edit.result (forM t.zipIdx fun (row, index) => collect r index row) []

/-- The resolved cell of a row that has no other. -/
def onlyCell (r : Resolver) (index : Nat) (row : List String) : Except Halt Value :=
  match row with
  | [text] => r.cell text
  | _ => .error (.fault (.tableShape index 1 row.length))

/-- The resolved cells of a table with one column. -/
def toColumn (r : Resolver) (t : Table) : Except Halt (List Value) :=
  t.zipIdx.mapM fun (row, index) => onlyCell r index row

variable {σ : Type}

/-- Binds one resolved cell, in place. -/
def assign (b : Bindable σ) (r : Resolver) (name cell : String) : Edit Halt σ Unit := do
  let value ← r.cell cell
  (b.set name value).adaptExcept .fault

/-- Binds a row of a field and a value, in place. -/
def assignPair (b : Bindable σ) (r : Resolver) (index : Nat) (row : List String) :
    Edit Halt σ Unit := do
  let (name, cell) ← pair index row
  assign b r name cell

/-- Binds the rows of a table of fields and values, in place. -/
def applyPairs (b : Bindable σ) (r : Resolver) (t : Table) : Edit Halt σ Unit :=
  forM t.zipIdx fun (row, index) => assignPair b r index row

/-- Binds a table of fields and values to a record in place: all of its rows or
    none. -/
def amend (b : Bindable σ) (r : Resolver) (t : Table) : Edit Halt σ Unit :=
  Edit.onCopy (applyPairs b r t)

/-- A state with a table of fields and values bound to it. -/
def update (b : Bindable σ) (r : Resolver) (t : Table) (state : σ) : Except Halt σ :=
  Edit.result (amend b r t) state

/-- A new record from a table of fields and values. -/
def toRecord (b : Bindable σ) (r : Resolver) (t : Table) : Except Halt σ :=
  Edit.result (applyPairs b r t) b.start

/-- Binds cells under the names beside them, in place. -/
def applyCells (b : Bindable σ) (r : Resolver) (cells : List (String × String)) :
    Edit Halt σ Unit :=
  forM cells fun (name, cell) => assign b r name cell

/-- The record of a row below a header. -/
def ofRow (b : Bindable σ) (r : Resolver) (header : List String) (index : Nat)
    (row : List String) : Except Halt σ :=
  if row.length = header.length then
    Edit.result (applyCells b r (header.zip row)) b.start
  else .error (.fault (.tableShape index header.length row.length))

/-- One record for each row below the header, which names the fields. -/
def toRecords (b : Bindable σ) (r : Resolver) (t : Table) : Except Halt (List σ) :=
  match t with
  | [] => .error (.fault (.tableShape 0 1 0))
  | header :: rows => (rows.zipIdx 1).mapM fun (row, index) => ofRow b r header index row

end Table

end Fixture
