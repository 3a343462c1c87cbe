import Fixture.Proofs.Dispatch
import Fixture.Proofs.Pairs
import Fixture.Proofs.Template

/-! # Where nothing comes from

    A field of an optional type is left without a datum by null only.  Lookups
    give null for what is missing, and documents and stores may hold null; but a
    lookup tag that is a whole cell gives its value only if it is neither text nor
    null, and every other way through the passes ends in a text.  So the one cell
    that is null is the literal for it. -/

namespace Fixture

open Derive (Arm Implementation)

/-! ## Null cells -/

theorem Value.native?_ne_null (v : Value) : v.native? ≠ some .null := by
  cases v with
  | null | string => exact fun h => nomatch h
  | bool | number | array | object => exact fun h => nomatch Option.some.inj h

/-- One sentinel stands for null. -/
theorem Sentinel.value_eq_null_iff {x : Sentinel} : x.value = .null ↔ x = .null := by
  cases x with
  | null => exact iff_of_true rfl rfl
  | truth | falsity | empty => exact iff_of_false (fun h => nomatch h) (fun h => nomatch h)

namespace Resolver

/-- A tag that is a whole cell does not give it null. -/
theorem native?_ne_null (r : Resolver) (k : TagKind) (s : List Char) :
    r.native? k s ≠ some .null := by
  rw [native?_eq_bind]
  intro h
  obtain ⟨c, -, hv⟩ := Option.bind_eq_some_iff.mp h
  exact Value.native?_ne_null _ hv

/-- The passes end in a text or in the value of a tag. -/
theorem resolveKinds_ne_null (r : Resolver) (ks : List TagKind) (s : List Char) :
    r.resolveKinds ks s ≠ .ok .null := by
  induction ks generalizing s with
  | nil => exact fun h => nomatch Except.ok.inj h
  | cons k ks ih =>
      rw [resolveKinds]
      cases hv : r.native? k s with
      | some v =>
          intro h
          obtain rfl := Except.ok.inj h
          exact r.native?_ne_null k s hv
      | none =>
          intro h
          obtain ⟨t, -, ht⟩ := bind_eq_ok_iff.mp h
          exact ih t ht

/-- **THE NULL CELL** is the literal: what stands in the environment and in the
    store has no part in it. -/
theorem resolve_eq_null_iff (r : Resolver) (cell : String) :
    r.resolve cell = .ok .null ↔ cell = "[NULL]" := by
  constructor
  · intro h
    rw [resolve] at h
    cases hx : Sentinel.ofText? cell.toList with
    | none =>
        rw [hx] at h
        exact absurd h (r.resolveKinds_ne_null _ _)
    | some x =>
        rw [hx] at h
        obtain rfl := Sentinel.value_eq_null_iff.mp (Except.ok.inj h)
        exact String.toList_injective (Sentinel.eq_literal_of_ofText? hx)
  · rintro rfl
    rfl

end Resolver

/-! ## Optional fields -/

variable {τ δ α : Type} [FieldType τ δ]

/-- Values are converted to data of the type as they are to options: nothing for
    null, and otherwise what `inner` gives. -/
structure IsOption (t : τ) (inner : Value → Except Fault α) (wrap : Option α → δ) : Prop where
  injective : Function.Injective wrap
  convert : ∀ v, FieldType.convert t v = (Convert.optional inner v).map wrap

theorem Shape.isOption (s : Shape) : IsOption (Shape.optional s) s.convert Datum.optional :=
  ⟨fun _ _ h => Datum.optional.inj h, fun _ => rfl⟩

/-- An option is empty for null and for nothing else. -/
theorem Convert.optional_eq_none_iff {inner : Value → Except Fault α} {v : Value} :
    optional inner v = .ok none ↔ v = .null := by
  cases v with
  | null => exact iff_of_true rfl rfl
  | bool | number | string | array | object =>
      refine iff_of_false (fun h => ?_) (fun h => nomatch h)
      obtain ⟨x, -, hx⟩ := map_eq_ok_iff.mp h
      cases hx

/-- What a cell is converted to for an optional field is nothing exactly if the
    cell is the literal. -/
theorem IsOption.eq_none_iff {t : τ} {inner : Value → Except Fault α} {wrap : Option α → δ}
    (h : IsOption t inner wrap) {r : Resolver} {cell : String} {v : Value} {d : δ}
    (hv : r.resolve cell = .ok v) (hd : FieldType.convert t v = .ok d) :
    d = wrap none ↔ cell = "[NULL]" := by
  rw [h.convert] at hd
  obtain ⟨o, ho, rfl⟩ := map_eq_ok_iff.mp hd
  calc wrap o = wrap none ↔ o = none := h.injective.eq_iff
    _ ↔ v = .null := by
      have hnone : Convert.optional inner v = .ok none ↔ v = .null :=
        Convert.optional_eq_none_iff
      rw [← hnone, ho, Except.ok.injEq]
    _ ↔ r.resolve cell = .ok .null := by rw [hv, Except.ok.injEq]
    _ ↔ cell = "[NULL]" := r.resolve_eq_null_iff cell

namespace Derive.Implementation

/-- The field of a name in the schema of a structure. -/
theorem field?_schema_of_first {i : Implementation} {name : String} {k : Nat} {a : Arm}
    (type : List Token → τ) (h : Arm.First i.arms (lowercase name) k a) :
    ∃ f, (i.schema type).field? name = some f ∧ f.shape = type a.type := by
  refine ⟨⟨some (String.ofList (plainName a.field)), a.key, a.skipped, type a.type, none⟩,
    ?_, rfl⟩
  rw [Schema.field?_eq_bind, position?_schema_of_first type h, Option.bind_some, schema,
    List.getElem?_map, h.1]
  rfl

/-- **NOTHING COMES FROM THE LITERAL ONLY**: the null cell is the literal, and
    where a cell was bound to a field of an optional type, by itself or as the
    last one in a table, the field is left without a datum exactly if the cell
    was the literal. -/
theorem none_iff_null_literal (r : Resolver) (cell : String) :
    (r.resolve cell = .ok .null ↔ cell = "[NULL]")
    ∧ ∀ (i : Implementation) (type : List Token → τ) (inner : Value → Except Fixture.Fault α)
        (wrap : Option α → δ) (name : String) (k : Nat) (a : Arm),
      Arm.First i.arms (lowercase name) k a → IsOption (type a.type) inner wrap →
      ∀ record after : Record δ, record.length = i.arms.length →
        (Edit.result (Table.assign (i.bindable type) r name cell) record = .ok after →
          (after[k]? = some (wrap none) ↔ cell = "[NULL]"))
        ∧ ∀ before later : Table,
          (∀ row ∈ later, (i.schema type).target? row ≠ some k) →
          Table.update (i.bindable type) r (before ++ [name, cell] :: later) record
            = .ok after →
          (after[k]? = some (wrap none) ↔ cell = "[NULL]") := by
  refine ⟨r.resolve_eq_null_iff cell, ?_⟩
  intro i type inner wrap name k a hfirst hoption record after hrecord
  have hk : k < record.length := hrecord ▸ hfirst.lt_length
  have hposition := position?_schema_of_first type hfirst
  obtain ⟨f, hf, hshape⟩ := field?_schema_of_first type hfirst
  rw [bindable_eq_schema_bindable]
  refine ⟨?_, ?_⟩
  · intro h
    rw [Schema.bindable, Table.result_assign] at h
    obtain ⟨⟨j, d⟩, hwrite, rfl⟩ := map_eq_ok_iff.mp h
    obtain ⟨v, hv, hwrite⟩ := bind_eq_ok_iff.mp hwrite
    obtain ⟨hj, f', hf', -, hd⟩ := Schema.write_eq_ok_iff.mp (mapError_eq_ok_iff.mp hwrite)
    obtain rfl := Option.some.inj (hposition.symm.trans hj)
    obtain rfl := Option.some.inj (hf.symm.trans hf')
    rw [hshape] at hd
    rw [List.getElem?_set_self hk, Option.some.injEq]
    exact hoption.eq_none_iff (Resolver.cell_eq_ok_iff.mp hv) hd
  · intro before later hlater h
    obtain ⟨f', v, d, hf', hv, hd, hafter⟩ :=
      Table.getElem?_update_last h hposition hk hlater
    obtain rfl := Option.some.inj (hf.symm.trans hf')
    rw [hshape] at hd
    rw [hafter, Option.some.injEq]
    exact hoption.eq_none_iff hv hd

/-- A note is nothing after the literal, by itself or behind another row, and is
    something after a lookup of null, of the spelling of the literal, of what is
    missing, and after the literal inside a longer cell. -/
theorem none_iff_null_literal_note :
    let r : Resolver :=
      { environment := .object [("gone", .null), ("spelled", .string "[NULL]")]
        scenario := Store.ofList [("gone", .null)]
        clock := ⟨0, 0, 0⟩ }
    let i : Implementation :=
      ⟨standardRoot, "Entry", ⟨[], ⟨[], false⟩⟩,
        [⟨"id", "id", [.word "u16"], false⟩, ⟨"note", "note", [.word "Option"], false⟩]⟩
    let type : List Token → Shape :=
      fun ts => if Token.startsWithWord "u16" ts then .int .u16 else .optional .text
    let record : Record := [.int 1, .optional (some (.text "a"))]
    let bound (cell : String) := Edit.result (Table.assign (i.bindable type) r "Note" cell) record
    let table : Table := [["note", "b"], ["id", "2"], ["NOTE", "[NULL]"]]
    (∃ after, bound "[NULL]" = .ok after ∧ after[1]? = some (.optional none))
      ∧ (∃ after, Table.update (i.bindable type) r table record = .ok after
        ∧ after[1]? = some (.optional none))
      ∧ ∀ cell ∈ ["[CONF:gone]", "[CTXT:gone]", "[CONF:spelled]", "[CTXT:missing]", "a[NULL]"],
        r.resolve cell ≠ .ok .null
          ∧ ∃ after, bound cell = .ok after ∧ after[1]? ≠ some (.optional none) := by
  intro r i type record bound table
  have hfirst : ∀ name, lowercase name = "note" →
      Arm.First i.arms (lowercase name) 1 ⟨"note", "note", [.word "Option"], false⟩ := by
    intro name hname
    rw [hname]
    exact Arm.first_cons_of_ne (by decide) (Arm.first_cons_of_key rfl)
  have hnote := hfirst "Note" (by decide +kernel)
  have hNOTE := hfirst "NOTE" (by decide +kernel)
  have hoption : IsOption (type [.word "Option"]) Shape.text.convert Datum.optional :=
    Shape.isOption .text
  refine ⟨?_, ?_, ?_⟩
  · obtain ⟨after, hafter⟩ : ∃ after, bound "[NULL]" = .ok after :=
      failure?_eq_none_iff.mp (by rfl)
    obtain ⟨hnone, -⟩ := (none_iff_null_literal r "[NULL]").2 i type _ _ "Note" 1 _ hnote
      hoption record after rfl
    exact ⟨after, hafter, (hnone hafter).mpr rfl⟩
  · obtain ⟨after, hafter⟩ : ∃ after, Table.update (i.bindable type) r table record = .ok after :=
      failure?_eq_none_iff.mp (Option.isNone_iff_eq_none.mp (by decide +kernel))
    obtain ⟨-, hnone⟩ := (none_iff_null_literal r "[NULL]").2 i type _ _ "NOTE" 1 _ hNOTE
      hoption record after rfl
    have hlast := hnone [["note", "b"], ["id", "2"]] [] (fun row hrow => nomatch hrow) hafter
    exact ⟨after, hafter, hlast.mpr rfl⟩
  · intro cell hcell
    have hother : cell ≠ "[NULL]" := by
      rintro rfl
      exact absurd hcell (by decide)
    have hbound : ∀ cell ∈ ["[CONF:gone]", "[CTXT:gone]", "[CONF:spelled]", "[CTXT:missing]",
        "a[NULL]"], (failure? (bound cell)).isNone = true := by decide +kernel
    obtain ⟨after, hafter⟩ : ∃ after, bound cell = .ok after :=
      failure?_eq_none_iff.mp (Option.isNone_iff_eq_none.mp (hbound cell hcell))
    obtain ⟨hnone, -⟩ := (none_iff_null_literal r cell).2 i type _ _ "Note" 1 _ hnote
      hoption record after rfl
    exact ⟨mt (r.resolve_eq_null_iff cell).mp hother, after, hafter, mt (hnone hafter).mp hother⟩

end Derive.Implementation

end Fixture
