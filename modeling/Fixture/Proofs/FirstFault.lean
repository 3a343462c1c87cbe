import Fixture.Proofs.Binding
import Fixture.Proofs.Rewriting

/-! # The first faulty row

    Whichever binder a table is given to, the fault that comes back is that of
    the first row with something wrong: with the number of its cells, or, where
    they are bound to a record, with the leftmost cell that cannot be bound.
    The header counts as a row.  The binders go through the table in different
    ways, one that collects and one that edits a state, so the first fault is
    taken from the loop and only then compared with what is wrong with a row. -/

namespace Fixture

namespace Table

variable {σ α : Type}

/-! ## What is wrong with a row -/

/-- What is wrong with the number of cells in a row. -/
def shapeFault (width index : Nat) (row : List String) : Option Fault :=
  if row.length = width then none else some (.tableShape index width row.length)

/-- What goes wrong in binding a cell to a state. -/
def cellFault (b : Bindable σ) (r : Resolver) (state : σ) (name cell : String) :
    Option Fault :=
  match Edit.result (assign b r name cell) state with
  | .error (.fault f) => some f
  | .error (.overflow _) | .ok _ => none

/-- What goes wrong with the leftmost failing one of cells that are bound to a
    state one after another. -/
def cellsFault (b : Bindable σ) (r : Resolver) (state : σ)
    (cells : List (String × String)) : Option Fault :=
  first? (fun j c => cellFault b r (Edit.leaves (applyCells b r (cells.take j)) state) c.1 c.2)
    cells

/-- What is wrong with a row of a field and a value that is bound to a state. -/
def pairFault (b : Bindable σ) (r : Resolver) (state : σ) (index : Nat)
    (row : List String) : Option Fault :=
  match row with
  | [name, cell] => cellFault b r state name cell
  | _ => shapeFault 2 index row

/-- What is wrong with a row of a table of fields and values that is bound to a
    state; the rows above it are bound first. -/
def pairFaultIn (b : Bindable σ) (r : Resolver) (t : Table) (state : σ) (index : Nat)
    (row : List String) : Option Fault :=
  pairFault b r (Edit.leaves (applyPairs b r (t.take index)) state) index row

/-- What is wrong with a row of a table with a header, which is row zero. -/
def recordFault (b : Bindable σ) (r : Resolver) (header : List String) (index : Nat)
    (row : List String) : Option Fault :=
  if index = 0 then none
  else (shapeFault header.length index row).or (cellsFault b r b.start (header.zip row))

/-- A binder fails exactly if some row is faulty, and then with the fault of the
    faulty row with the smallest number. -/
def Reports (x : Except Halt α) (fault : Nat → List String → Option Fault)
    (t : Table) : Prop :=
  ((∃ h, x = .error h) ↔ ∃ i row, t[i]? = some row ∧ fault i row ≠ none)
    ∧ ∀ h, x = .error h ↔ ∃ i row f, t[i]? = some row ∧ fault i row = some f ∧ h = .fault f
      ∧ ∀ j < i, ∀ row', t[j]? = some row' → fault j row' = none

/-- A binder reports the faults that its loop stops at. -/
theorem reports_of_failure? {x : Except Halt α} {halt : Nat → List String → Option Halt}
    {fault : Nat → List String → Option Fault} {t : Table}
    (hloop : failure? x = first? halt t)
    (hrow : ∀ i row, t[i]? = some row → halt i row = (fault i row).map .fault) :
    Reports x fault t := by
  rw [first?_congr hrow, ← map_first?] at hloop
  constructor
  · -- both sides say that something is there, so their negations are compared
    have hnone : failure? x = none ↔ first? fault t = none := by
      rw [hloop, Option.map_eq_none_iff]
    rw [failure?_eq_none_iff, first?_eq_none_iff] at hnone
    rw [← not_iff_not]
    constructor
    · rintro hx ⟨i, row, hget, hfault⟩
      refine hfault (hnone.mp ?_ i row hget)
      cases x with
      | ok a => exact ⟨a, rfl⟩
      | error h => exact absurd ⟨h, rfl⟩ hx
    · rintro hfault ⟨h, rfl⟩
      obtain ⟨a, ha⟩ := hnone.mpr fun i row hget => by
        by_contra hne
        exact hfault ⟨i, row, hget, hne⟩
      cases ha
  · intro h
    rw [← failure?_eq_some_iff, hloop, Option.map_eq_some_iff]
    constructor
    · rintro ⟨f, hf, rfl⟩
      obtain ⟨i, row, hget, hfault, hmin⟩ := first?_eq_some_iff.mp hf
      exact ⟨i, row, f, hget, hfault, rfl, hmin⟩
    · rintro ⟨i, row, f, hget, hfault, rfl, hmin⟩
      exact ⟨f, first?_eq_some_iff.mpr ⟨i, row, hget, hfault, hmin⟩, rfl⟩

/-! ## One row -/

variable {r : Resolver} {row : List String}

/-- The text of a cell is that of its value. -/
theorem cellText_of_resolve {text : String} {v : Value} (h : r.resolve text = .ok v) :
    r.cellText text = .ok v.text := by
  rw [Resolver.cellText, Resolver.resolveText, h]
  rfl

/-- Taking a row as a pair fails only by its shape. -/
theorem failure?_pair (index : Nat) (row : List String) :
    failure? (pair index row) = (shapeFault 2 index row).map .fault := by
  by_cases hlength : row.length = 2
  · obtain ⟨key, value, rfl⟩ := List.length_eq_two.mp hlength
    rfl
  · rw [pair_of_length_ne hlength, shapeFault, if_neg hlength]
    rfl

theorem failure?_entry (h : ∀ cell ∈ row, ∃ v, r.resolve cell = .ok v) (index : Nat) :
    failure? (entry r index row) = (shapeFault 2 index row).map .fault := by
  refine (failure?_bind_of_ok ?_).trans (failure?_pair index row)
  rintro ⟨key, value⟩ hpair
  obtain rfl := pair_eq_ok_iff.mp hpair
  obtain ⟨v, hv⟩ := h value (by simp)
  show failure? (r.cell value >>= fun v => .ok (key, v)) = none
  rw [Resolver.cell_eq_ok_iff.mpr hv]
  rfl

theorem failure?_collect (h : ∀ cell ∈ row, ∃ v, r.resolve cell = .ok v) (index : Nat)
    (out : Assoc (List String)) :
    failure? (Edit.result (collect r index row) out) = (shapeFault 2 index row).map .fault := by
  rw [collect, Edit.result_lift_bind]
  refine (failure?_bind_of_ok ?_).trans (failure?_pair index row)
  rintro ⟨key, value⟩ hpair
  obtain rfl := pair_eq_ok_iff.mp hpair
  obtain ⟨k, hk⟩ := h key (by simp)
  obtain ⟨v, hv⟩ := h value (by simp)
  show failure? (Edit.result (liftM (r.cellText key) >>= _) out) = none
  rw [cellText_of_resolve hk]
  show failure? (Edit.result (liftM (r.cellText value) >>= _) out) = none
  rw [cellText_of_resolve hv]
  rfl

theorem failure?_onlyCell (h : ∀ cell ∈ row, ∃ v, r.resolve cell = .ok v) (index : Nat) :
    failure? (onlyCell r index row) = (shapeFault 1 index row).map .fault := by
  match row with
  | [text] =>
      obtain ⟨v, hv⟩ := h text (by simp)
      show failure? (r.cell text) = none
      rw [Resolver.cell_eq_ok_iff.mpr hv]
      rfl
  | [] => rfl
  | _ :: _ :: _ =>
      rw [shapeFault, if_neg (by simp)]
      rfl

/-- Where a cell has a value, binding it fails with a fault or not at all. -/
theorem failure?_assign {b : Bindable σ} {cell : String}
    (h : ∃ v, r.resolve cell = .ok v) (state : σ) (name : String) :
    failure? (Edit.result (assign b r name cell) state)
      = (cellFault b r state name cell).map .fault := by
  obtain ⟨v, hv⟩ := h
  have hassign : Edit.result (assign b r name cell) state
      = (b.bind state name v).mapError .fault := by
    rw [assign, Edit.result_lift_bind, Resolver.cell_eq_ok_iff.mpr hv]
    exact Edit.result_adaptExcept ..
  rw [cellFault, hassign]
  cases b.bind state name v <;> rfl

/-- Binding a row fails by its shape or by what is bound, in the state that is there. -/
theorem failure?_assignPair {b : Bindable σ} (h : ∀ cell ∈ row, ∃ v, r.resolve cell = .ok v)
    (index : Nat) (state : σ) :
    failure? (Edit.result (assignPair b r index row) state)
      = (pairFault b r state index row).map .fault := by
  by_cases hlength : row.length = 2
  · obtain ⟨name, cell, rfl⟩ := List.length_eq_two.mp hlength
    exact failure?_assign (h cell (by simp)) state name
  · have hshape : pairFault b r state index row = shapeFault 2 index row := by
      match row with
      | [_, _] => exact absurd rfl hlength
      | [] | [_] | _ :: _ :: _ :: _ => rfl
    rw [assignPair, Edit.result_lift_bind, pair_of_length_ne hlength, hshape, shapeFault,
      if_neg hlength]
    rfl

/-- A record fails by the shape of its row or by the first cell that cannot be bound. -/
theorem failure?_ofRow {b : Bindable σ} (h : ∀ cell ∈ row, ∃ v, r.resolve cell = .ok v)
    (header : List String) (index : Nat) :
    failure? (ofRow b r header index row)
      = ((shapeFault header.length index row).or
          (cellsFault b r b.start (header.zip row))).map .fault := by
  rw [ofRow, shapeFault]
  by_cases hlength : row.length = header.length
  · rw [if_pos hlength, if_pos hlength, Option.none_or, cellsFault, map_first?, applyCells,
      Edit.failure?_forM]
    refine first?_congr ?_
    intro j c hc
    exact failure?_assign (h c.2 (List.of_mem_zip (List.mem_of_getElem? hc)).2) _ c.1
  · rw [if_neg hlength, if_neg hlength]
    rfl

/-! ## One table -/

variable {t : Table}

/-- A map reports the first row that is no pair. -/
theorem toMap_reports (h : ∀ row ∈ t, ∀ cell ∈ row, ∃ v, r.resolve cell = .ok v) :
    Reports (toMap r t) (shapeFault 2) t := by
  have hloop : failure? (toMap r t) = first? (fun i row => failure? (entry r (0 + i) row)) t := by
    rw [← failure?_mapM_zipIdx, toMap]
    show failure? (t.zipIdx.mapM (fun e => entry r e.2 e.1) >>= _) = _
    cases t.zipIdx.mapM fun e => entry r e.2 e.1 <;> rfl
  refine reports_of_failure? hloop ?_
  intro i row hget
  rw [Nat.zero_add]
  exact failure?_entry (h row (List.mem_of_getElem? hget)) i

theorem toMultiMap_reports (h : ∀ row ∈ t, ∀ cell ∈ row, ∃ v, r.resolve cell = .ok v) :
    Reports (toMultiMap r t) (shapeFault 2) t :=
  reports_of_failure? (Edit.failure?_forM_zipIdx (collect r) t [])
    fun i row hget => failure?_collect (h row (List.mem_of_getElem? hget)) i _

/-- A column reports the first row that is not one cell. -/
theorem toColumn_reports (h : ∀ row ∈ t, ∀ cell ∈ row, ∃ v, r.resolve cell = .ok v) :
    Reports (toColumn r t) (shapeFault 1) t := by
  refine reports_of_failure? (failure?_mapM_zipIdx (onlyCell r) t 0) ?_
  intro i row hget
  rw [Nat.zero_add]
  exact failure?_onlyCell (h row (List.mem_of_getElem? hget)) i

/-- Binding pairs reports the first row that fails in the state behind the rows in front of
    it. -/
theorem applyPairs_reports (b : Bindable σ)
    (h : ∀ row ∈ t, ∀ cell ∈ row, ∃ v, r.resolve cell = .ok v) (state : σ) :
    Reports (Edit.result (applyPairs b r t) state) (pairFaultIn b r t state) t :=
  reports_of_failure? (Edit.failure?_forM_zipIdx (assignPair b r) t state)
    fun i row hget => failure?_assignPair (h row (List.mem_of_getElem? hget)) i _

/-- Records report the first row that makes none. -/
theorem toRecords_reports (b : Bindable σ) (header : List String) {rows : Table}
    (h : ∀ row ∈ rows, ∀ cell ∈ row, ∃ v, r.resolve cell = .ok v) :
    Reports (toRecords b r (header :: rows)) (recordFault b r header) (header :: rows) := by
  -- the loop numbers the rows below the header from one on, as in the table
  have hloop : failure? (toRecords b r (header :: rows))
      = first? (fun i row => if i = 0 then none else failure? (ofRow b r header i row))
        (header :: rows) := by
    have hrows := failure?_mapM_zipIdx (ofRow b r header) rows 1
    simp only [Nat.add_comm 1] at hrows
    rw [first?_cons, if_pos rfl, Option.none_or]
    exact hrows.trans (first?_congr fun i row _ => (if_neg (Nat.succ_ne_zero i)).symm)
  refine reports_of_failure? hloop ?_
  intro i row hget
  cases i with
  | zero => rfl
  | succ i =>
      rw [recordFault, if_neg (Nat.succ_ne_zero i), if_neg (Nat.succ_ne_zero i)]
      exact failure?_ofRow (h row (List.mem_of_getElem? hget)) header (i + 1)

/-! ## Records of a schema -/

/-- What goes wrong in binding a cell to a record of a schema does not depend on
    the record. -/
theorem cellFault_bindableFrom {τ δ : Type} [FieldType τ δ] (s : Schema τ)
    (start record other : Record δ) (r : Resolver) (name cell : String) :
    cellFault (s.bindableFrom start) r record name cell
      = cellFault (s.bindableFrom start) r other name cell := by
  rw [cellFault, cellFault, result_assign, result_assign]
  cases s.cellWrite r name cell <;> rfl

/-- For a schema the state does not matter. -/
theorem pairFault_bindableFrom {τ δ : Type} [FieldType τ δ] (s : Schema τ)
    (start record other : Record δ) (r : Resolver) (index : Nat) (row : List String) :
    pairFault (s.bindableFrom start) r record index row
      = pairFault (s.bindableFrom start) r other index row := by
  match row with
  | [name, cell] => exact cellFault_bindableFrom s start record other r name cell
  | [] | [_] | _ :: _ :: _ :: _ => rfl

/-! ## All binders -/

/-- **THE FIRST FAULT**: where every cell has a value, each binder fails exactly
    if some row is faulty, and with the fault of the first such row.  For maps
    and columns only the number of cells can be wrong.  A row that is bound to a
    record may have a cell at fault as well, in the state that it finds; for a
    record of a schema any record may stand for that state.  A table with a
    header lacks the header if it has no rows at all. -/
theorem first_fault_reported {τ δ : Type} [FieldType τ δ] (b : Bindable σ) (s : Schema τ)
    (r : Resolver) (t : Table) (hcells : ∀ row ∈ t, ∀ cell ∈ row, ∃ v, r.resolve cell = .ok v) :
    Reports (toMap r t) (shapeFault 2) t
    ∧ Reports (toMultiMap r t) (shapeFault 2) t
    ∧ Reports (toColumn r t) (shapeFault 1) t
    ∧ Reports (toRecord b r t) (pairFaultIn b r t b.start) t
    ∧ (∀ state, Reports (update b r t state) (pairFaultIn b r t state) t)
    ∧ (∀ header rows, t = header :: rows →
        Reports (toRecords b r t) (recordFault b r header) t)
    ∧ (t = [] → toRecords b r t = .error (.fault (.tableShape 0 1 0)))
    ∧ ∀ start record other : Record δ,
        Reports (update (s.bindableFrom start) r t record)
          (pairFault (s.bindableFrom start) r other) t := by
  have hupdate : ∀ {σ : Type} (b : Bindable σ) (state : σ),
      Reports (update b r t state) (pairFaultIn b r t state) t := by
    intro σ b state
    rw [update, amend, Edit.result_onCopy]
    exact applyPairs_reports b hcells state
  refine ⟨toMap_reports hcells, toMultiMap_reports hcells, toColumn_reports hcells,
    applyPairs_reports b hcells b.start, hupdate b, ?_, ?_, ?_⟩
  · rintro header rows rfl
    exact toRecords_reports b header fun row hrow => hcells row (List.mem_cons_of_mem header hrow)
  · rintro rfl
    rfl
  · intro start record other
    have hrow : pairFaultIn (s.bindableFrom start) r t record
        = pairFault (s.bindableFrom start) r other := by
      funext index row
      exact pairFault_bindableFrom s start _ other r index row
    rw [← hrow]
    exact hupdate (s.bindableFrom start) record

/-- A cell that cannot be bound in the first row, a row too short in the second
    and a name without a field in the third. -/
theorem first_fault_reported_mixed :
    let s : Schema :=
      ⟨"Switch", [Field.declared "label" .text none false,
        Field.declared "on" .bool none false]⟩
    let r : Resolver := ⟨.null, Store.empty, ⟨0, 0, 0⟩⟩
    let t : Table := [["On", "[EMPTY]"], ["label"], ["gone", "[NULL]"]]
    (∀ row ∈ t, ∀ cell ∈ row, ∃ v, r.resolve cell = .ok v)
      ∧ toMap r t = .error (.fault (.tableShape 1 2 1))
      ∧ toColumn r t = .error (.fault (.tableShape 0 1 2))
      ∧ toRecord s.bindable r t
        = .error (.fault (.field "On" "Switch" (.parse "bool" "" "invalid syntax")))
      ∧ toRecords s.bindable r t = .error (.fault (.tableShape 1 2 1)) := by
  intro s r t
  have hcells : ∀ row ∈ t, ∀ cell ∈ row, ∃ v, r.resolve cell = .ok v := by
    simp only [t, List.forall_mem_cons, List.not_mem_nil, false_imp_iff, implies_true, and_true]
    exact ⟨⟨⟨_, r.resolve_of_no_open (by decide)⟩, ⟨_, rfl⟩⟩,
      ⟨_, r.resolve_of_no_open (by decide)⟩, ⟨_, r.resolve_of_no_open (by decide)⟩, ⟨_, rfl⟩⟩
  obtain ⟨hmap, -, hcolumn, hrecord, -, hrecords, -⟩ :=
    first_fault_reported s.bindable s r t hcells
  have hfirst : ∀ (fault : Nat → List String → Option Fault), fault 0 ["On", "[EMPTY]"] = none →
      ∀ j < 1, ∀ row', t[j]? = some row' → fault j row' = none := by
    intro fault h j hj row' hrow'
    obtain rfl : j = 0 := by omega
    obtain rfl := Option.some.inj hrow'
    exact h
  refine ⟨hcells, ?_, ?_, ?_, ?_⟩
  · exact (hmap.2 _).mpr ⟨1, ["label"], _, rfl, rfl, rfl, hfirst _ rfl⟩
  · exact (hcolumn.2 _).mpr ⟨0, ["On", "[EMPTY]"], _, rfl, rfl, rfl,
      fun j hj => absurd hj (Nat.not_lt_zero j)⟩
  · exact (hrecord.2 _).mpr ⟨0, ["On", "[EMPTY]"], _, rfl, by rfl, rfl,
      fun j hj => absurd hj (Nat.not_lt_zero j)⟩
  · exact ((hrecords _ _ rfl).2 _).mpr ⟨1, ["label"], _, rfl, rfl, rfl, hfirst _ rfl⟩

end Table

end Fixture
