import Fixture.Proofs.Loops
import Fixture.Record.Schema
import Fixture.Record.Table

/-! # Tables with a header

    A table may name the fields once, in its first row, or in every row beside
    the cell.  Both come to the same records: a row below a header is the table
    of the names above its cells and the cells. -/

namespace Fixture

namespace Table

variable {σ : Type}

/-- The names of a header, each beside the cell below it. -/
def paired (header row : List String) : Table :=
  List.zipWith (fun name cell => [name, cell]) header row

theorem applyPairs_paired (b : Bindable σ) (r : Resolver) (header row : List String) :
    applyPairs b r (paired header row) = applyCells b r (header.zip row) := by
  rw [applyPairs, applyCells, paired]
  -- the pairs below the first are numbered from one on
  generalize 0 = n
  induction header generalizing row n with
  | nil => rfl
  | cons name header ih =>
      cases row with
      | nil => rfl
      | cons cell row =>
          rw [List.zipWith_cons_cons, List.zipIdx_cons, List.zip_cons_cons, List.forM_cons,
            List.forM_cons, ih]
          rfl

theorem ofRow_eq_toRecord (b : Bindable σ) (r : Resolver) {header row : List String}
    (h : row.length = header.length) (index : Nat) :
    ofRow b r header index row = toRecord b r (paired header row) := by
  rw [ofRow, if_pos h, toRecord, applyPairs_paired]

/-- **HEADER AND PAIRS AGREE**: a table whose rows are as wide as its header
    gives, row by row, the record of the header paired with the row, and stops
    with the fault of the first row that gives none. -/
theorem toRecords_eq_mapM (b : Bindable σ) (r : Resolver) (header : List String)
    (rows : Table) (hwide : ∀ row ∈ rows, row.length = header.length) :
    toRecords b r (header :: rows) = rows.mapM (fun row => toRecord b r (paired header row))
    ∧ ∀ items, toRecords b r (header :: rows) = .ok items →
      List.Forall₂ (fun row item => toRecord b r (paired header row) = .ok item) rows items := by
  have heq : toRecords b r (header :: rows)
      = rows.mapM fun row => toRecord b r (paired header row) :=
    mapM_zipIdx (fun row hrow index => ofRow_eq_toRecord b r (hwide row hrow) index) 1
  refine ⟨heq, ?_⟩
  intro items h
  rw [heq] at h
  exact mapM_eq_ok_iff.mp h

/-- A column that comes twice, and a cell that fails in the second row. -/
theorem toRecords_eq_mapM_fault :
    let s : Schema :=
      ⟨"Switch", [Field.declared "label" .text none false,
        Field.declared "on" .bool none false]⟩
    let r : Resolver := ⟨.null, Store.empty, ⟨0, 0, 0⟩⟩
    let header := ["label", "On", "LABEL"]
    let rows : Table := [["[NULL]", "[TRUE]", "[FALSE]"], ["[NULL]", "[EMPTY]", "[NULL]"]]
    (∀ row ∈ rows, row.length = header.length)
      ∧ toRecord s.bindable r (paired header ["[NULL]", "[TRUE]", "[FALSE]"])
        = .ok [.text "false", .bool true]
      ∧ rows.mapM (fun row => toRecord s.bindable r (paired header row))
        = .error (.fault (.field "On" "Switch" (.parse "bool" "" "invalid syntax"))) := by
  intro s r header rows
  have hwide : ∀ row ∈ rows, row.length = header.length := by decide
  refine ⟨hwide, by rfl, ?_⟩
  rw [← (toRecords_eq_mapM s.bindable r header rows hwide).1]
  rfl

end Table

end Fixture
