import Fixture.Proofs.Binding

/-! # Runs of updates

    An update is all or nothing, so a run of updates has one short account: the
    tables that fail leave no trace, and those that succeed come to the same as
    their rows in a single table.  Where a table is cut does not matter, since a
    row sees nothing of the rows before it but the state that they leave. -/

namespace Fixture

namespace Table

variable {σ : Type}

/-- Tables bound in place one after another, whether or not each of them
    succeeds: those that do, and the state in the end. -/
def amendAll (b : Bindable σ) (r : Resolver) : List Table → σ → List Table × σ
  | [], state => ([], state)
  | t :: ts, state =>
      let later := amendAll b r ts (Edit.leaves (amend b r t) state)
      match update b r t state with
      | .ok _ => (t :: later.1, later.2)
      | .error _ => later

/-! ## Cutting a table -/

/-- The number of a row has no part in what the row binds. -/
theorem assignPair_eq_ok_iff {b : Bindable σ} {r : Resolver} {index : Nat}
    {row : List String} {state after : σ} :
    Edit.result (assignPair b r index row) state = .ok after
      ↔ ∃ name cell, row = [name, cell]
        ∧ Edit.result (assign b r name cell) state = .ok after := by
  rw [assignPair, Edit.result_lift_bind, bind_eq_ok_iff]
  constructor
  · rintro ⟨⟨name, cell⟩, hpair, h⟩
    exact ⟨name, cell, pair_eq_ok_iff.mp hpair, h⟩
  · rintro ⟨name, cell, rfl, h⟩
    exact ⟨(name, cell), rfl, h⟩

/-- Nor do the numbers of the rows in what a table binds. -/
theorem forM_zipIdx_eq_ok_iff {b : Bindable σ} {r : Resolver} {t : Table}
    {state final : σ} (n : Nat) :
    Edit.result (forM (t.zipIdx n) fun e => assignPair b r e.2 e.1) state = .ok final
      ↔ update b r t state = .ok final := by
  rw [update, amend, Edit.result_onCopy, applyPairs]
  show _ ↔ Edit.result (forM (t.zipIdx 0) fun e => assignPair b r e.2 e.1) state = _
  -- two numberings with nothing in common, or the induction does not go through
  generalize 0 = m
  induction t generalizing state n m with
  | nil => exact Iff.rfl
  | cons row t ih =>
      rw [List.zipIdx_cons, List.zipIdx_cons, List.forM_cons, List.forM_cons,
        Edit.result_bind, Edit.result_bind, bind_eq_ok_iff, bind_eq_ok_iff]
      refine exists_congr fun after => ?_
      rw [assignPair_eq_ok_iff, assignPair_eq_ok_iff, ih (n + 1) (m + 1)]

/-- **A CUT**: a table binds what its rows up to the cut bind, and then what the
    others bind to the state that these leave. -/
theorem update_append_eq_ok_iff {b : Bindable σ} {r : Resolver} {t₁ t₂ : Table}
    {state final : σ} :
    update b r (t₁ ++ t₂) state = .ok final
      ↔ ∃ mid, update b r t₁ state = .ok mid ∧ update b r t₂ mid = .ok final := by
  rw [← forM_zipIdx_eq_ok_iff 0, List.zipIdx_append, Edit.result_forM_append, bind_eq_ok_iff]
  refine exists_congr fun mid => ?_
  rw [forM_zipIdx_eq_ok_iff, forM_zipIdx_eq_ok_iff]

/-! ## A run -/

/-- A table that fails leaves the state as it was. -/
theorem leaves_amend_of_error {b : Bindable σ} {r : Resolver} {t : Table} {state : σ}
    {h : Halt} (hfails : update b r t state = .error h) :
    Edit.leaves (amend b r t) state = state :=
  Edit.leaves_onCopy_of_error hfails

/-- A table that succeeds is kept, and the others start from what it leaves. -/
theorem amendAll_cons_of_ok {b : Bindable σ} {r : Resolver} {t : Table} {state mid : σ}
    (h : update b r t state = .ok mid) (ts : List Table) :
    amendAll b r (t :: ts) state
      = (t :: (amendAll b r ts mid).1, (amendAll b r ts mid).2) := by
  have hleaves : Edit.leaves (amend b r t) state = mid := Edit.leaves_of_result h
  rw [amendAll, h, hleaves]

theorem amendAll_cons_of_error {b : Bindable σ} {r : Resolver} {t : Table} {state : σ}
    {h : Halt} (hfails : update b r t state = .error h) (ts : List Table) :
    amendAll b r (t :: ts) state = amendAll b r ts state := by
  rw [amendAll, hfails, leaves_amend_of_error hfails]

/-- **A RUN IS ONE UPDATE** with the rows of the tables that succeed. -/
theorem update_amendAll (b : Bindable σ) (r : Resolver) (ts : List Table) (init : σ) :
    update b r (amendAll b r ts init).1.flatten init = .ok (amendAll b r ts init).2 := by
  induction ts generalizing init with
  | nil => rfl
  | cons t ts ih =>
      cases h : update b r t init with
      | ok mid =>
          rw [amendAll_cons_of_ok h]
          exact update_append_eq_ok_iff.mpr ⟨mid, h, ih mid⟩
      | error e =>
          rw [amendAll_cons_of_error h]
          exact ih init

variable {τ δ : Type} [FieldType τ δ]

/-- Whether a table can be bound to a record of a schema does not depend on the
    record. -/
theorem isOk_update (s : Schema τ) (start : Record δ) (r : Resolver) (t : Table)
    (record other : Record δ) :
    (update (s.bindableFrom start) r t record).isOk
      = (update (s.bindableFrom start) r t other).isOk := by
  rw [update_eq_map, update_eq_map]
  cases t.zipIdx.mapM fun e => s.rowWrite r e.2 e.1 <;> rfl

/-- The tables that are kept are those that succeed by themselves. -/
theorem amendAll_eq_filter (s : Schema τ) (start : Record δ) (r : Resolver)
    (ts : List Table) (init other : Record δ) :
    (amendAll (s.bindableFrom start) r ts init).1
      = ts.filter fun t => (update (s.bindableFrom start) r t other).isOk := by
  -- the record changes along the run, but not which tables succeed on it
  induction ts generalizing init with
  | nil => rfl
  | cons t ts ih =>
      rw [List.filter_cons, isOk_update s start r t other init]
      cases h : update (s.bindableFrom start) r t init with
      | ok mid =>
          rw [amendAll_cons_of_ok h]
          exact congrArg (t :: ·) (ih mid)
      | error e =>
          rw [amendAll_cons_of_error h]
          exact ih init

/-- **ALL OR NOTHING**: a table that fails leaves the record as it was, whatever
    rows were bound before the failure.  After a run of tables the record is the
    one that a single table with the rows of those that succeeded gives, and
    these are the tables that succeed on any record. -/
theorem amend_all_or_nothing (s : Schema τ) (start : Record δ) (r : Resolver) :
    (∀ t record h, update (s.bindableFrom start) r t record = .error h →
      Edit.leaves (amend (s.bindableFrom start) r t) record = record)
    ∧ ∀ (ts : List Table) (init : Record δ),
      update (s.bindableFrom start) r
          (amendAll (s.bindableFrom start) r ts init).1.flatten init
        = .ok (amendAll (s.bindableFrom start) r ts init).2
      ∧ ∀ other : Record δ, (amendAll (s.bindableFrom start) r ts init).1
        = ts.filter fun t => (update (s.bindableFrom start) r t other).isOk := by
  refine ⟨fun t record h => leaves_amend_of_error, ?_⟩
  intro ts init
  exact ⟨update_amendAll _ r ts init, amendAll_eq_filter s start r ts init⟩

/-- The second of three tables fails behind a row that it has bound. -/
theorem amend_all_or_nothing_rollback :
    let s : Schema :=
      ⟨"Switch", [Field.declared "label" .text none false,
        Field.declared "on" .bool none false]⟩
    let r : Resolver := ⟨.null, Store.empty, ⟨0, 0, 0⟩⟩
    let init : Record := [.text "kept", .bool false]
    let failing : Table := [["label", "[TRUE]"], ["on", "[EMPTY]"]]
    let ts : List Table := [[["On", "[TRUE]"]], failing, [["LABEL", "[FALSE]"]]]
    update s.bindable r failing init
        = .error (.fault (.field "on" "Switch" (.parse "bool" "" "invalid syntax")))
      ∧ Edit.leaves (applyPairs s.bindable r failing) init = [.text "true", .bool false]
      ∧ Edit.leaves (amend s.bindable r failing) init = init
      ∧ update s.bindable r [["On", "[TRUE]"], ["LABEL", "[FALSE]"]] init
        = .ok (amendAll s.bindable r ts init).2 := by
  intro s r init failing ts
  obtain ⟨hrollback, hrun⟩ := amend_all_or_nothing s s.start r
  have hfails : update s.bindable r failing init
      = .error (.fault (.field "on" "Switch" (.parse "bool" "" "invalid syntax"))) := by rfl
  exact ⟨hfails, by rfl, hrollback failing init _ hfails, (hrun ts init).1⟩

end Table

end Fixture
