import Fixture.Proofs.Loops
import Fixture.Record.Schema
import Fixture.Record.Table

/-! # Binding to a schema

    Binding a cell to a record of a schema has two halves.  What is to be
    written, and where, is computed from the name and the cell alone; only then
    is it written.  So a table of names and cells is a list of writes, or a
    fault that no record has a part in, and the record is touched after all of
    them are known. -/

namespace Fixture

variable {τ δ : Type}

/-! ## Writes -/

namespace Record

/-- Writes data at positions, one after another. -/
def writeAll (record : Record δ) (es : List (Nat × δ)) : Record δ :=
  es.foldl (fun record e => record.set e.1 e.2) record

/-- Writing fields changes no record in length. -/
theorem length_writeAll (record : Record δ) (es : List (Nat × δ)) :
    (writeAll record es).length = record.length := by
  induction es generalizing record with
  | nil => rfl
  | cons e es ih => exact (ih _).trans List.length_set

/-- A position that nothing is written at keeps its datum. -/
theorem getElem?_writeAll_of_untouched {record : Record δ} {es : List (Nat × δ)} {i : Nat}
    (h : ∀ e ∈ es, e.1 ≠ i) : (writeAll record es)[i]? = record[i]? := by
  induction es generalizing record with
  | nil => rfl
  | cons e es ih =>
      show (writeAll (record.set e.1 e.2) es)[i]? = _
      rw [ih fun e' he' => h e' (List.mem_cons_of_mem e he'),
        List.getElem?_set_ne (h e (List.mem_cons_self ..))]

/-- **THE LAST WRITE** to a position is what the position holds. -/
theorem getElem?_writeAll_last {record : Record δ} {before after : List (Nat × δ)}
    {i : Nat} {d : δ} (hi : i < record.length) (h : ∀ e ∈ after, e.1 ≠ i) :
    (writeAll record (before ++ (i, d) :: after))[i]? = some d := by
  rw [writeAll, List.foldl_append]
  show (writeAll ((writeAll record before).set i d) after)[i]? = _
  rw [getElem?_writeAll_of_untouched h]
  refine List.getElem?_set_self ?_
  rw [length_writeAll]
  exact hi

/-- Only the writes to a position have a part in what it holds. -/
theorem getElem?_writeAll_filter (record : Record δ) (es : List (Nat × δ)) (i : Nat) :
    (writeAll record es)[i]? = (writeAll record (es.filter fun e => e.1 = i))[i]? := by
  -- the two records drift apart, but not at the position
  suffices h : ∀ record' : Record δ, record[i]? = record'[i]? →
      (writeAll record es)[i]? = (writeAll record' (es.filter fun e => e.1 = i))[i]? from
    h record rfl
  intro record' hi
  induction es generalizing record record' with
  | nil => exact hi
  | cons e es ih =>
      by_cases he : e.1 = i
      · rw [List.filter_cons_of_pos (by simpa using he)]
        refine ih (record.set e.1 e.2) (record'.set e.1 e.2) ?_
        rw [he, List.getElem?_set_self', List.getElem?_set_self', hi]
      · rw [List.filter_cons_of_neg (by simpa using he)]
        refine ih (record.set e.1 e.2) record' ?_
        rw [List.getElem?_set_ne he, hi]

/-- Writes in another order come to the same, as long as the writes to each
    position keep theirs. -/
theorem writeAll_congr {es es' : List (Nat × δ)}
    (h : ∀ i, (es.filter fun e => e.1 = i) = es'.filter fun e => e.1 = i)
    (record : Record δ) : writeAll record es = writeAll record es' := by
  apply List.ext_getElem?
  intro i
  rw [getElem?_writeAll_filter, getElem?_writeAll_filter record es', h]

end Record

/-! ## What is written -/

theorem Resolver.cell_eq_ok_iff {r : Resolver} {text : String} {v : Value} :
    r.cell text = .ok v ↔ r.resolve text = .ok v :=
  mapError_eq_ok_iff

namespace Schema

/-- The field of a name is the one at its position. -/
theorem field?_eq_bind (s : Schema τ) (name : String) :
    s.field? name = (s.position? name).bind fun i => s.fields[i]? := by
  rw [field?, position?]
  induction s.fields with
  | nil => rfl
  | cons f fs ih =>
      rw [List.find?_cons, List.findIdx?_cons]
      cases decide (f.key = lowercase name) with
      | true => rfl
      | false =>
          show List.find? _ fs = ((fs.findIdx? _).map (· + 1)).bind fun i => (f :: fs)[i]?
          rw [ih, Option.bind_map]
          rfl

variable [FieldType τ δ]

/-- A field is written if it is there, not skipped, and the value can be converted. -/
theorem write_eq_ok_iff {s : Schema τ} {name : String} {v : Value} {i : Nat} {d : δ} :
    s.write name v = .ok (i, d) ↔ s.position? name = some i ∧ ∃ f, s.field? name = some f
      ∧ f.skipped = false ∧ FieldType.convert f.shape v = .ok d := by
  rw [write, field?_eq_bind]
  -- of the five ways through `write` only the last one gives something
  cases hi : s.position? name with
  | none => exact iff_of_false (fun h => nomatch h) (fun h => nomatch h.1)
  | some j =>
      rw [Option.bind_some]
      cases hf : s.fields[j]? with
      | none =>
          refine iff_of_false (fun h => nomatch h) ?_
          rintro ⟨-, f, hf', -⟩
          cases hf'
      | some f =>
          show (if f.skipped then _ else _) = _ ↔ _
          cases hskip : f.skipped with
          | true =>
              refine iff_of_false (fun h => nomatch h) ?_
              rintro ⟨-, f', hf', hskip', -⟩
              obtain rfl := Option.some.inj hf'
              rw [hskip] at hskip'
              cases hskip'
          | false =>
              rw [if_neg Bool.false_ne_true]
              cases hd : FieldType.convert f.shape v with
              | error e =>
                  refine iff_of_false (fun h => nomatch h) ?_
                  rintro ⟨-, f', hf', -, hd'⟩
                  obtain rfl := Option.some.inj hf'
                  rw [hd] at hd'
                  cases hd'
              | ok d' =>
                  constructor
                  · intro h
                    obtain ⟨rfl, rfl⟩ := Prod.mk.inj (Except.ok.inj h)
                    exact ⟨rfl, f, rfl, hskip, hd⟩
                  · rintro ⟨hj, f', hf', -, hd'⟩
                    obtain rfl := Option.some.inj hj
                    obtain rfl := Option.some.inj hf'
                    rw [hd] at hd'
                    rw [Except.ok.inj hd']

/-- What binding a cell to a name writes. -/
def cellWrite (s : Schema τ) (r : Resolver) (name cell : String) : Except Halt (Nat × δ) := do
  let v ← r.cell cell
  (s.write name v).mapError .fault

/-- What binding a row of a name and a cell writes. -/
def rowWrite (s : Schema τ) (r : Resolver) (index : Nat) (row : List String) :
    Except Halt (Nat × δ) := do
  let (name, cell) ← Table.pair index row
  s.cellWrite r name cell

/-- A row of two cells that a write comes from. -/
def Writes (s : Schema τ) (r : Resolver) (row : List String) (e : Nat × δ) : Prop :=
  ∃ name cell v, row = [name, cell] ∧ r.resolve cell = .ok v ∧ s.write name v = .ok e

/-- A row writes what its two cells say. -/
theorem rowWrite_eq_ok_iff {s : Schema τ} {r : Resolver} {index : Nat}
    {row : List String} {e : Nat × δ} :
    s.rowWrite r index row = .ok e ↔ s.Writes r row e := by
  have hcell : ∀ name cell, s.cellWrite r name cell = .ok e
      ↔ ∃ v, r.resolve cell = .ok v ∧ s.write name v = .ok e := by
    intro name cell
    simp only [cellWrite, bind_eq_ok_iff, Resolver.cell_eq_ok_iff, mapError_eq_ok_iff]
  constructor
  · intro h
    obtain ⟨⟨name, cell⟩, hpair, h⟩ := bind_eq_ok_iff.mp h
    obtain ⟨v, hv, h⟩ := (hcell name cell).mp h
    exact ⟨name, cell, v, Table.pair_eq_ok_iff.mp hpair, hv, h⟩
  · rintro ⟨name, cell, v, rfl, hv, h⟩
    exact (hcell name cell).mpr ⟨v, hv, h⟩

end Schema

/-! ## Bindings -/

namespace Table

variable [FieldType τ δ]

/-- Assigning a cell sets the field that it writes. -/
theorem result_assign (s : Schema τ) (start : Record δ) (r : Resolver)
    (name cell : String) (record : Record δ) :
    Edit.result (assign (s.bindableFrom start) r name cell) record
      = (s.cellWrite r name cell).map fun e => record.set e.1 e.2 := by
  rw [assign, Edit.result_lift_bind, Schema.cellWrite]
  cases r.cell cell with
  | error h => rfl
  | ok v =>
      show Edit.result ((s.set name v).adaptExcept Halt.fault) record
        = ((s.write name v).mapError Halt.fault).map _
      rw [Edit.result_adaptExcept, Schema.set, Edit.result_lift_bind]
      cases s.write name v <;> rfl

theorem result_assignPair (s : Schema τ) (start : Record δ) (r : Resolver) (index : Nat)
    (row : List String) (record : Record δ) :
    Edit.result (assignPair (s.bindableFrom start) r index row) record
      = (s.rowWrite r index row).map fun e => record.set e.1 e.2 := by
  rw [assignPair, Edit.result_lift_bind, Schema.rowWrite]
  cases pair index row with
  | error h => rfl
  | ok e => exact result_assign s start r e.1 e.2 record

/-- **A TABLE OF WRITES**: what the rows write is computed first, without the
    record, and then written. -/
theorem update_eq_map (s : Schema τ) (start : Record δ) (r : Resolver) (t : Table)
    (record : Record δ) :
    update (s.bindableFrom start) r t record
      = (t.zipIdx.mapM fun e => s.rowWrite r e.2 e.1).map record.writeAll := by
  rw [update, amend, Edit.result_onCopy, applyPairs]
  exact Edit.result_forM_of_writes
    (fun e record => result_assignPair s start r e.2 e.1 record) t.zipIdx record

/-- An update succeeds with the writes of its rows, one for each row. -/
theorem update_eq_ok_iff {s : Schema τ} {start : Record δ} {r : Resolver} {t : Table}
    {record final : Record δ} :
    update (s.bindableFrom start) r t record = .ok final
      ↔ ∃ es, List.Forall₂ (s.Writes r) t es ∧ final = record.writeAll es := by
  rw [update_eq_map, map_eq_ok_iff]
  exact exists_congr fun es => and_congr_left'
    (mapM_zipIdx_eq_ok_iff (f := s.rowWrite r) (fun _ _ _ => Schema.rowWrite_eq_ok_iff) 0)

end Table

end Fixture
