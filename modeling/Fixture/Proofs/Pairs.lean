import Mathlib.Data.List.Perm.Basic
import Fixture.Proofs.Binding
import Fixture.Proofs.Rewriting

/-! # Tables of fields and values

    What a record holds after a table of fields and values was bound to it.
    Several rows may be for one field, several fields may have one key, and
    some rows may be for fields that take no values.  The rows come to one write
    each, so the last row for a field is the one that shows, the other fields
    keep their data, and rows for different fields may change places. -/

namespace Fixture

variable {τ δ : Type}

namespace Schema

/-- The position of the field that a row of a name and a cell is for. -/
def target? (s : Schema τ) (row : List String) : Option Nat :=
  row.head?.bind s.position?

variable [FieldType τ δ]

theorem Writes.target? {s : Schema τ} {r : Resolver} {row : List String} {e : Nat × δ}
    (h : s.Writes r row e) : s.target? row = some e.1 := by
  obtain ⟨name, cell, v, rfl, -, hwrite⟩ := h
  exact (write_eq_ok_iff.mp hwrite).1

/-- **WHICH ROWS WRITE**: those of two cells, for a field that takes values and
    whose type the value of the cell can be converted to. -/
theorem exists_writes_iff {s : Schema τ} {r : Resolver} {row : List String} :
    (∃ e, s.Writes r row e) ↔ ∃ name cell f v d, row = [name, cell]
      ∧ s.field? name = some f ∧ f.skipped = false
      ∧ r.resolve cell = .ok v ∧ FieldType.convert f.shape v = .ok d := by
  constructor
  · rintro ⟨⟨i, d⟩, name, cell, v, hrow, hv, hwrite⟩
    obtain ⟨-, f, hf, hskip, hd⟩ := write_eq_ok_iff.mp hwrite
    exact ⟨name, cell, f, v, d, hrow, hf, hskip, hv, hd⟩
  · rintro ⟨name, cell, f, v, d, hrow, hf, hskip, hv, hd⟩
    have hbind := field?_eq_bind s name
    rw [hf] at hbind
    obtain ⟨i, hi, -⟩ := Option.bind_eq_some_iff.mp hbind.symm
    exact ⟨(i, d), name, cell, v, hrow, hv, write_eq_ok_iff.mpr ⟨hi, f, hf, hskip, hd⟩⟩

theorem writes_rightUnique (s : Schema τ) (r : Resolver) :
    Relator.RightUnique (s.Writes r) := by
  rintro row e e' ⟨name, cell, v, rfl, hv, he⟩ ⟨name', cell', v', hrow, hv', he'⟩
  obtain ⟨rfl, rfl⟩ : name = name' ∧ cell = cell' := by simpa using hrow
  obtain rfl := Except.ok.inj (hv.symm.trans hv')
  exact Except.ok.inj (he.symm.trans he')

/-- The writes of a table, by the field that they are for. -/
theorem forall₂_writes_filter {s : Schema τ} {r : Resolver} {t : Table}
    {es : List (Nat × δ)} (h : List.Forall₂ (s.Writes r) t es) (i : Nat) :
    List.Forall₂ (s.Writes r) (t.filter fun row => s.target? row = some i)
      (es.filter fun e => e.1 = i) := by
  refine List.rel_filter ?_ h
  intro row e he
  show decide (s.target? row = some i) = true ↔ decide (e.1 = i) = true
  rw [he.target?, decide_eq_true_iff, decide_eq_true_iff, Option.some.injEq]

/-- Where no row is for a field, no write is. -/
theorem untouched_of_forall₂ {s : Schema τ} {r : Resolver} {t : Table}
    {es : List (Nat × δ)} (h : List.Forall₂ (s.Writes r) t es) {i : Nat}
    (hi : ∀ row ∈ t, s.target? row ≠ some i) : ∀ e ∈ es, e.1 ≠ i := by
  have hnone : (t.filter fun row => s.target? row = some i) = [] :=
    List.filter_eq_nil_iff.mpr fun row hrow => by simpa using hi row hrow
  have hes := forall₂_writes_filter h i
  rw [hnone, List.forall₂_nil_left_iff, List.filter_eq_nil_iff] at hes
  intro e he
  simpa using hes e he

end Schema

namespace Table

variable [FieldType τ δ]

/-- An update succeeds exactly if every row writes. -/
theorem exists_update_eq_ok_iff {s : Schema τ} {start : Record δ} {r : Resolver}
    {t : Table} {init : Record δ} :
    (∃ final, update (s.bindableFrom start) r t init = .ok final)
      ↔ ∀ row ∈ t, ∃ e, s.Writes r row e := by
  rw [← exists_forall₂_iff]
  constructor
  · rintro ⟨final, h⟩
    obtain ⟨es, hes, -⟩ := update_eq_ok_iff.mp h
    exact ⟨es, hes⟩
  · rintro ⟨es, hes⟩
    exact ⟨_, update_eq_ok_iff.mpr ⟨es, hes, rfl⟩⟩

/-- A field that no row is for keeps its datum. -/
theorem getElem?_update_of_untouched {s : Schema τ} {start : Record δ} {r : Resolver}
    {t : Table} {init final : Record δ} {i : Nat}
    (h : update (s.bindableFrom start) r t init = .ok final)
    (hi : ∀ row ∈ t, s.target? row ≠ some i) : final[i]? = init[i]? := by
  obtain ⟨es, hes, rfl⟩ := update_eq_ok_iff.mp h
  exact Record.getElem?_writeAll_of_untouched (Schema.untouched_of_forall₂ hes hi)

/-- **THE LAST ROW** for a field gives the field its datum. -/
theorem getElem?_update_last {s : Schema τ} {start : Record δ} {r : Resolver}
    {before after : Table} {name cell : String} {init final : Record δ} {i : Nat}
    (h : update (s.bindableFrom start) r (before ++ [name, cell] :: after) init = .ok final)
    (hi : s.position? name = some i) (hlength : i < init.length)
    (hafter : ∀ row ∈ after, s.target? row ≠ some i) :
    ∃ f v d, s.field? name = some f ∧ r.resolve cell = .ok v
      ∧ FieldType.convert f.shape v = .ok d ∧ final[i]? = some d := by
  obtain ⟨es, hes, rfl⟩ := update_eq_ok_iff.mp h
  -- the writes are divided where the rows are: `e` is the write of the row
  obtain ⟨es₁, es₂, rfl, -, hes₂⟩ := forall₂_append_left hes
  obtain ⟨e, later, hrow, hlater, rfl⟩ := List.forall₂_cons_left_iff.mp hes₂
  obtain ⟨name', cell', v, hcells, hv, hwrite⟩ := hrow
  obtain ⟨rfl, rfl⟩ : name = name' ∧ cell = cell' := by simpa using hcells
  obtain ⟨j, d⟩ := e
  obtain ⟨hj, f, hf, -, hd⟩ := Schema.write_eq_ok_iff.mp hwrite
  obtain rfl := Option.some.inj (hi.symm.trans hj)
  exact ⟨f, v, d, hf, hv, hd,
    Record.getElem?_writeAll_last hlength (Schema.untouched_of_forall₂ hlater hafter)⟩

/-- **THE ORDER OF THE ROWS** matters only among the rows for one field. -/
theorem update_perm {s : Schema τ} {start : Record δ} {r : Resolver} {t t' : Table}
    {init final : Record δ} (hperm : t'.Perm t)
    (horder : ∀ i, (t'.filter fun row => s.target? row = some i)
      = t.filter fun row => s.target? row = some i)
    (h : update (s.bindableFrom start) r t init = .ok final) :
    update (s.bindableFrom start) r t' init = .ok final := by
  -- the same rows write, so the other table succeeds as well; what is left is
  -- that it succeeds with the same record
  have hrows := exists_update_eq_ok_iff.mp ⟨final, h⟩
  have hsome : ∃ final', update (s.bindableFrom start) r t' init = .ok final' :=
    exists_update_eq_ok_iff.mpr fun row hrow => hrows row (hperm.subset hrow)
  obtain ⟨final', h'⟩ := hsome
  obtain ⟨es, hes, hfinal⟩ := update_eq_ok_iff.mp h
  obtain ⟨es', hes', hfinal'⟩ := update_eq_ok_iff.mp h'
  have heq : ∀ i, (es'.filter fun e => e.1 = i) = es.filter fun e => e.1 = i := by
    intro i
    have hi := Schema.forall₂_writes_filter hes' i
    rw [horder i] at hi
    exact List.right_unique_forall₂' (s.writes_rightUnique r) hi
      (Schema.forall₂_writes_filter hes i)
  rw [h', hfinal, hfinal', Record.writeAll_congr heq]

/-- **THE LAST ROW OF EACH FIELD**: an update succeeds exactly if every row has
    two cells and is for a field that takes values, of a type that the value of
    the cell can be converted to.  Then the last row for a field gives the field
    its datum, a field without a row keeps its own, and rows for different
    fields may change places. -/
theorem update_last_rows (s : Schema τ) (start : Record δ) (r : Resolver) (t : Table) :
    toRecord (s.bindableFrom start) r t = update (s.bindableFrom start) r t start
    ∧ ∀ init : Record δ,
      ((∃ final, update (s.bindableFrom start) r t init = .ok final)
        ↔ ∀ row ∈ t, ∃ name cell f v d, row = [name, cell]
          ∧ s.field? name = some f ∧ f.skipped = false
          ∧ r.resolve cell = .ok v ∧ FieldType.convert f.shape v = .ok d)
      ∧ ∀ final, update (s.bindableFrom start) r t init = .ok final →
        final.length = init.length
        ∧ (∀ i, (∀ row ∈ t, s.target? row ≠ some i) → final[i]? = init[i]?)
        ∧ (∀ before name cell after i, t = before ++ [name, cell] :: after →
            s.position? name = some i → i < init.length →
            (∀ row ∈ after, s.target? row ≠ some i) →
            ∃ f v d, s.field? name = some f ∧ r.resolve cell = .ok v
              ∧ FieldType.convert f.shape v = .ok d ∧ final[i]? = some d)
        ∧ ∀ t' : Table, t'.Perm t →
            (∀ i, (t'.filter fun row => s.target? row = some i)
              = t.filter fun row => s.target? row = some i) →
            update (s.bindableFrom start) r t' init = .ok final := by
  constructor
  · rw [update, amend, Edit.result_onCopy]
    rfl
  · intro init
    refine ⟨?_, ?_⟩
    · rw [exists_update_eq_ok_iff]
      exact forall₂_congr fun row _ => Schema.exists_writes_iff
    · intro final h
      refine ⟨?_, fun i => getElem?_update_of_untouched h, ?_, fun t' => (update_perm · · h)⟩
      · obtain ⟨es, -, rfl⟩ := update_eq_ok_iff.mp h
        exact Record.length_writeAll init es
      · rintro before name cell after i rfl hi hlength hafter
        exact getElem?_update_last h hi hlength hafter

/-- Two rows for one field around a row for another, and two fields of one key:
    the later row shows, the field behind the other one is out of reach, and the
    row in between may go first. -/
theorem update_last_rows_twice :
    let s : Schema :=
      ⟨"Server", [Field.declared "name" .text none false,
        Field.declared "port" (.int .u16) none false,
        Field.declared "label" (.int .u8) (some "NAME") false]⟩
    let r : Resolver := ⟨.null, Store.empty, ⟨0, 0, 0⟩⟩
    let init : Record := [.text "kept", .int 1, .int 7]
    let final : Record := [.text "a", .int 8080, .int 7]
    let t : Table := [["Port", "80"], ["name", "a"], ["PORT", "8080"]]
    let t' : Table := [["name", "a"], ["Port", "80"], ["PORT", "8080"]]
    update s.bindable r t init = .ok final
      ∧ (∀ row ∈ t, s.target? row ≠ some 2) ∧ final[2]? = init[2]?
      ∧ s.position? "PORT" = some 1
      ∧ (∃ f v d, s.field? "PORT" = some f ∧ r.resolve "8080" = .ok v
        ∧ FieldType.convert f.shape v = .ok d ∧ final[1]? = some d)
      ∧ t'.Perm t
      ∧ (∀ i, (t'.filter fun row => s.target? row = some i)
        = t.filter fun row => s.target? row = some i)
      ∧ update s.bindable r t' init = .ok final := by
  intro s r init final t t'
  have hport : s.target? ["Port", "80"] = some 1 := by decide +kernel
  have hname : s.target? ["name", "a"] = some 0 := by decide +kernel
  have hPORT : s.target? ["PORT", "8080"] = some 1 := by decide +kernel
  have hwrites : List.Forall₂ (s.Writes r) t
      [(1, .int 80), (0, .text "a"), (1, .int 8080)] := by
    refine .cons ⟨"Port", "80", .string "80", rfl, r.resolve_of_no_open (by decide), ?_⟩
      (.cons ⟨"name", "a", .string "a", rfl, r.resolve_of_no_open (by decide), ?_⟩
        (.cons ⟨"PORT", "8080", .string "8080", rfl, r.resolve_of_no_open (by decide), ?_⟩
          .nil))
    · exact Schema.write_eq_ok_iff.mpr ⟨hport, _, by rfl, rfl, by rfl⟩
    · exact Schema.write_eq_ok_iff.mpr ⟨hname, _, by rfl, rfl, by rfl⟩
    · exact Schema.write_eq_ok_iff.mpr ⟨hPORT, _, by rfl, rfl, by rfl⟩
  have hupdate : update s.bindable r t init = .ok final :=
    update_eq_ok_iff.mpr ⟨_, hwrites, rfl⟩
  have hlabel : ∀ row ∈ t, s.target? row ≠ some 2 := by
    simp [t, hport, hname, hPORT]
  have hperm : t'.Perm t := by decide
  have horder : ∀ i, (t'.filter fun row => s.target? row = some i)
      = t.filter fun row => s.target? row = some i := by
    intro i
    -- of the fields only `name` has its row at another place
    by_cases hi : i = 0
    · simp [t, t', hport, hname, hPORT, hi]
    · simp [t, t', List.filter_cons, hport, hname, hPORT, Ne.symm hi]
  obtain ⟨-, huntouched, hlast, hsame⟩ := ((update_last_rows s s.start r t).2 init).2 final hupdate
  have hshown := hlast [["Port", "80"], ["name", "a"]] "PORT" "8080" [] 1
    rfl hPORT (by decide) (fun row hrow => nomatch hrow)
  exact ⟨hupdate, hlabel, huntouched 2 hlabel, hPORT, hshown, hperm, horder,
    hsame t' hperm horder⟩

end Table

end Fixture
