import Mathlib.Algebra.GroupWithZero.Nat
import Fixture.Proofs.FirstFault
import Fixture.Proofs.Keys

/-! # What maps hold

    A table of two columns becomes a map, or a map of lists.  A map goes by the
    first cells as they stand, and the last row of a key shows; a map of lists
    goes by their texts, so cells that are spelled differently may be one key, and
    keeps the texts of all rows.  Both are first said of entries: what a run of
    changes puts under a key depends on the entries of that key alone. -/

namespace Fixture

namespace Assoc

variable {α : Type}

/-! ## Entries under their keys -/

/-- What the entries have under a key, in their order. -/
def under (es : List (String × α)) (k : String) : List α :=
  (es.filter fun e => e.1 = k).map Prod.snd

theorem under_cons (e : String × α) (es : List (String × α)) (k : String) :
    under (e :: es) k = if e.1 = k then e.2 :: under es k else under es k := by
  rw [under, List.filter_cons]
  by_cases h : e.1 = k
  · rw [if_pos h, if_pos (decide_eq_true h)]
    rfl
  · rw [if_neg h, if_neg (by simpa using h)]
    rfl

/-- Something is under a key if there is an entry with it. -/
theorem under_ne_nil_iff {es : List (String × α)} {k : String} :
    under es k ≠ [] ↔ ∃ e ∈ es, e.1 = k := by
  rw [under, Ne, List.map_eq_nil_iff, List.filter_eq_nil_iff]
  simp only [decide_eq_true_eq, not_forall, not_not, exists_prop]

/-- **THE LAST ENTRY** of a key shows in a list of entries put into order. -/
theorem get?_ofList (es : List (String × α)) (k : String) :
    get? (ofList es) k = (under es k).getLast? := by
  suffices h : ∀ acc : Assoc α, get? (es.foldl (fun acc e => insert e.1 e.2 acc) acc) k
      = (under es k).getLast?.or (get? acc k) by
    rw [ofList, h]
    exact Option.or_none
  induction es with
  | nil => exact fun acc => rfl
  | cons e es ih =>
      intro acc
      rw [List.foldl_cons, ih, get?_insert, under_cons]
      by_cases he : e.1 = k
      · rw [if_pos he, if_pos he.symm, List.getLast?_cons]
        cases (under es k).getLast? <;> rfl
      · rw [if_neg he, if_neg (Ne.symm he)]

/-- The lists of what entries have under their keys. -/
def gather (es : List (String × α)) : Assoc (List α) :=
  es.foldl (fun acc e => push e.1 e.2 acc) []

/-- Gathering keeps the keys in order. -/
theorem ordered_gather (es : List (String × α)) : Ordered (gather es) := by
  suffices h : ∀ acc : Assoc (List α), Ordered acc →
      Ordered (es.foldl (fun acc e => push e.1 e.2 acc) acc) from h [] .nil
  induction es with
  | nil => exact fun acc hacc => hacc
  | cons e es ih => exact fun acc hacc => ih _ (hacc.alter _ e.1)

/-- **ALL ENTRIES** of a key are in its list, in their order; a key without
    entries has no list. -/
theorem get?_gather (es : List (String × α)) (k : String) :
    get? (gather es) k = if under es k = [] then none else some (under es k) := by
  suffices h : ∀ acc : Assoc (List α), Ordered acc →
      get? (es.foldl (fun acc e => push e.1 e.2 acc) acc) k
        = if under es k = [] then get? acc k else some ((get? acc k).getD [] ++ under es k) from
    h [] .nil
  induction es with
  | nil => exact fun acc _ => rfl
  | cons e es ih =>
      intro acc hacc
      rw [List.foldl_cons, push, ih _ (hacc.alter _ e.1), hacc.get?_alter, under_cons]
      by_cases he : e.1 = k
      · subst he
        rw [if_pos rfl, if_pos rfl, if_neg (List.cons_ne_nil _ _)]
        split
        · rename_i hnil
          rw [hnil]
        · rw [Option.getD_some, List.append_assoc, List.singleton_append]
      · rw [if_neg he, if_neg (Ne.symm he)]

/-- The number of things in all lists together. -/
def total (m : Assoc (List α)) : Nat := (m.map fun e => e.2.length).sum

theorem total_cons (e : String × List α) (m : Assoc (List α)) :
    total (e :: m) = e.2.length + total m := List.sum_cons

/-- Pushing a value makes one more in all. -/
theorem total_push (key : String) (value : α) (m : Assoc (List α)) :
    total (push key value m) = total m + 1 := by
  induction m with
  | nil => rfl
  | cons e m ih =>
      obtain ⟨k, vs⟩ := e
      rw [push, alter]
      split
      · rw [total_cons, Nat.add_comm]
        rfl
      · split
        · rw [total_cons, total_cons, Option.getD_some, List.length_append,
            List.length_singleton]
          exact Nat.add_right_comm ..
        · rw [total_cons, total_cons, ← push, ih, Nat.add_assoc]

/-- **NOTHING IS LOST** and nothing comes twice: the lists have as many things as
    there are entries. -/
theorem total_gather (es : List (String × α)) : total (gather es) = es.length := by
  suffices h : ∀ acc : Assoc (List α),
      total (es.foldl (fun acc e => push e.1 e.2 acc) acc) = total acc + es.length from
    (h []).trans (Nat.zero_add _)
  induction es with
  | nil => exact fun acc => rfl
  | cons e es ih =>
      intro acc
      rw [List.foldl_cons, ih, total_push, List.length_cons, Nat.add_assoc, Nat.add_comm 1]

/-- What shows under a key has no entry of the key behind it. -/
theorem exists_of_getLast?_under {es : List (String × α)} {k : String} {v : α}
    (h : (under es k).getLast? = some v) :
    ∃ before after, es = before ++ (k, v) :: after ∧ ∀ e ∈ after, e.1 ≠ k := by
  rw [under, List.getLast?_map, Option.map_eq_some_iff] at h
  obtain ⟨⟨k', v'⟩, hlast, rfl⟩ := h
  obtain ⟨front, hfront⟩ := List.getLast?_eq_some_iff.mp hlast
  obtain ⟨before, rest, rfl, -, hrest⟩ := List.filter_eq_append_iff.mp hfront
  obtain ⟨between, after, rfl, -, hk, hnil⟩ := List.filter_eq_cons_iff.mp hrest
  obtain rfl : k' = k := of_decide_eq_true hk
  refine ⟨before ++ between, after, (List.append_assoc ..).symm, ?_⟩
  intro e he heq
  exact List.filter_eq_nil_iff.mp hnil e he (decide_eq_true heq)

end Assoc

/-! ## The entries of rows -/

namespace Resolver

/-- The text of the first cell of a row. -/
def keyText? (r : Resolver) (row : List String) : Option String :=
  row.head?.bind fun key => (r.resolveText key).toOption

/-- The text of a cell is what resolving it as a text gives. -/
theorem cellText_eq_ok_iff {r : Resolver} {text s : String} :
    r.cellText text = .ok s ↔ r.resolveText text = .ok s :=
  mapError_eq_ok_iff

/-- A cell has a text if it has a value. -/
theorem exists_resolveText_iff {r : Resolver} {cell : String} :
    (∃ s, r.resolveText cell = .ok s) ↔ ∃ v, r.resolve cell = .ok v := by
  rw [resolveText]
  cases r.resolve cell with
  | ok v => exact iff_of_true ⟨v.text, rfl⟩ ⟨v, rfl⟩
  | error e =>
      refine iff_of_false ?_ ?_
      · rintro ⟨s, h⟩
        cases h
      · rintro ⟨v, h⟩
        cases h

end Resolver

namespace Table

variable {r : Resolver} {row : List String} {t : Table}

/-- The row has two cells, and their texts are the entry. -/
def Texts (r : Resolver) (row : List String) (e : String × String) : Prop :=
  ∃ key value, row = [key, value] ∧ r.resolveText key = .ok e.1 ∧ r.resolveText value = .ok e.2

/-- The row has two cells, the key of the entry and one that its value comes
    from. -/
def Holds (r : Resolver) (row : List String) (e : String × Value) : Prop :=
  ∃ value, row = [e.1, value] ∧ r.resolve value = .ok e.2

/-- The key of a row is the text of its first cell. -/
theorem Texts.keyText? {e : String × String} (h : Texts r row e) :
    r.keyText? row = some e.1 := by
  obtain ⟨key, value, rfl, hkey, -⟩ := h
  show (r.resolveText key).toOption = some e.1
  rw [hkey]
  rfl

/-- A row has texts if it has two cells and both have values. -/
theorem exists_texts_iff :
    (∃ e, Texts r row e) ↔ ∃ key value, row = [key, value]
      ∧ (∃ v, r.resolve key = .ok v) ∧ ∃ v, r.resolve value = .ok v := by
  simp only [← Resolver.exists_resolveText_iff]
  constructor
  · rintro ⟨⟨k, v⟩, key, value, hrow, hk, hv⟩
    exact ⟨key, value, hrow, ⟨k, hk⟩, v, hv⟩
  · rintro ⟨key, value, hrow, ⟨k, hk⟩, v, hv⟩
    exact ⟨(k, v), key, value, hrow, hk, hv⟩

theorem exists_holds_iff :
    (∃ e, Holds r row e) ↔ ∃ key value v, row = [key, value] ∧ r.resolve value = .ok v := by
  constructor
  · rintro ⟨⟨key, v⟩, value, hrow, hv⟩
    exact ⟨key, value, v, hrow, hv⟩
  · rintro ⟨key, value, v, hrow, hv⟩
    exact ⟨(key, v), value, hrow, hv⟩

/-- The texts that a row adds to a map of lists. -/
def rowTexts (r : Resolver) (index : Nat) (row : List String) : Except Halt (String × String) := do
  let (key, value) ← pair index row
  let key ← r.cellText key
  let value ← r.cellText value
  .ok (key, value)

theorem rowTexts_eq_ok_iff {index : Nat} {e : String × String} :
    rowTexts r index row = .ok e ↔ Texts r row e := by
  obtain ⟨k, v⟩ := e
  rw [rowTexts, bind_eq_ok_iff]
  constructor
  · rintro ⟨⟨key, value⟩, hpair, h⟩
    obtain ⟨k', hk, h⟩ := bind_eq_ok_iff.mp h
    obtain ⟨v', hv, h⟩ := bind_eq_ok_iff.mp h
    obtain ⟨rfl, rfl⟩ := Prod.mk.inj (Except.ok.inj h)
    exact ⟨key, value, pair_eq_ok_iff.mp hpair, Resolver.cellText_eq_ok_iff.mp hk,
      Resolver.cellText_eq_ok_iff.mp hv⟩
  · rintro ⟨key, value, rfl, hk, hv⟩
    refine ⟨(key, value), rfl, bind_eq_ok_iff.mpr ⟨k, Resolver.cellText_eq_ok_iff.mpr hk, ?_⟩⟩
    exact bind_eq_ok_iff.mpr ⟨v, Resolver.cellText_eq_ok_iff.mpr hv, rfl⟩

theorem entry_eq_ok_iff {index : Nat} {e : String × Value} :
    entry r index row = .ok e ↔ Holds r row e := by
  obtain ⟨k, v⟩ := e
  rw [entry, bind_eq_ok_iff]
  constructor
  · rintro ⟨⟨key, value⟩, hpair, h⟩
    obtain ⟨v', hv, h⟩ := bind_eq_ok_iff.mp h
    obtain ⟨rfl, rfl⟩ := Prod.mk.inj (Except.ok.inj h)
    exact ⟨value, pair_eq_ok_iff.mp hpair, Resolver.cell_eq_ok_iff.mp hv⟩
  · rintro ⟨value, rfl, hv⟩
    exact ⟨(k, value), rfl, bind_eq_ok_iff.mpr ⟨v, Resolver.cell_eq_ok_iff.mpr hv, rfl⟩⟩

/-! ## Maps -/

/-- Collecting a row pushes its second text under its first. -/
theorem result_collect (r : Resolver) (index : Nat) (row : List String)
    (out : Assoc (List String)) :
    Edit.result (collect r index row) out
      = (rowTexts r index row).map fun e => Assoc.push e.1 e.2 out := by
  rw [collect, Edit.result_lift_bind, rowTexts]
  cases pair index row with
  | error h => rfl
  | ok e =>
      obtain ⟨key, value⟩ := e
      show Edit.result (liftM (r.cellText key) >>= _) out = (r.cellText key >>= _).map _
      rw [Edit.result_lift_bind]
      cases r.cellText key with
      | error h => rfl
      | ok k =>
          show Edit.result (liftM (r.cellText value) >>= _) out = (r.cellText value >>= _).map _
          rw [Edit.result_lift_bind]
          cases r.cellText value <;> rfl

/-- A map of lists gathers the texts of the rows. -/
theorem toMultiMap_eq_ok_iff {m : Assoc (List String)} :
    toMultiMap r t = .ok m ↔ ∃ es, List.Forall₂ (Texts r) t es ∧ m = Assoc.gather es := by
  rw [toMultiMap, Edit.result_forM_of_writes
    (fun e out => result_collect r e.2 e.1 out) t.zipIdx [], map_eq_ok_iff]
  exact exists_congr fun es =>
    and_congr_left' (mapM_zipIdx_eq_ok_iff (f := rowTexts r) (fun _ _ _ => rowTexts_eq_ok_iff) 0)

/-- A map puts the rows into order. -/
theorem toMap_eq_ok_iff {m : Assoc Value} :
    toMap r t = .ok m ↔ ∃ es, List.Forall₂ (Holds r) t es ∧ m = Assoc.ofList es := by
  have hmap : toMap r t = (t.zipIdx.mapM fun e => entry r e.2 e.1).map Assoc.ofList := by
    rw [toMap]
    show (t.zipIdx.mapM (fun e => entry r e.2 e.1) >>= _) = _
    cases t.zipIdx.mapM fun e => entry r e.2 e.1 <;> rfl
  rw [hmap, map_eq_ok_iff]
  exact exists_congr fun es =>
    and_congr_left' (mapM_zipIdx_eq_ok_iff (f := entry r) (fun _ _ _ => entry_eq_ok_iff) 0)

/-- The texts under a key are those beside the first cells that have its text. -/
theorem forall₂_under {es : List (String × String)} (h : List.Forall₂ (Texts r) t es)
    (k : String) :
    List.Forall₂ (fun row text => ∃ key value, row = [key, value]
        ∧ r.resolveText value = .ok text)
      (t.filter fun row => r.keyText? row = some k) (Assoc.under es k) := by
  have hrows : List.Forall₂ (Texts r) (t.filter fun row => r.keyText? row = some k)
      (es.filter fun e => e.1 = k) := by
    refine List.rel_filter ?_ h
    intro row e he
    show decide (r.keyText? row = some k) = true ↔ decide (e.1 = k) = true
    rw [he.keyText?, decide_eq_true_iff, decide_eq_true_iff, Option.some.injEq]
  rw [Assoc.under, List.forall₂_map_right_iff]
  refine hrows.imp ?_
  rintro row e ⟨key, value, hrow, -, hvalue⟩
  exact ⟨key, value, hrow, hvalue⟩

/-- The row that an entry comes from, between the rows of the others. -/
theorem exists_row_of_append {before after : List (String × Value)} {e : String × Value}
    (h : List.Forall₂ (Holds r) t (before ++ e :: after)) :
    ∃ rows value rows', t = rows ++ [e.1, value] :: rows' ∧ r.resolve value = .ok e.2
      ∧ List.Forall₂ (Holds r) rows' after := by
  obtain ⟨rows, rest, rfl, -, hrest⟩ := forall₂_append_left h.flip
  obtain ⟨row, rows', ⟨value, hrow, hvalue⟩, hrows', rfl⟩ := List.forall₂_cons_left_iff.mp hrest
  exact ⟨rows, value, rows', by rw [hrow], hvalue, hrows'.flip⟩

/-- **MAPS OF A TABLE**.  A map of lists comes from a table of two columns whose
    cells all have values.  Its keys are the texts of the first cells, in order
    and each once, and under a key are the texts beside it in the order of the rows;
    taken together these are as many as the rows.  For a map only the second cells
    need values: its keys are the first cells themselves, and under a key is the
    value beside it in its last row. -/
theorem maps_hold_rows (r : Resolver) (t : Table) :
    ((∃ m, toMultiMap r t = .ok m) ↔ ∀ row ∈ t, ∃ key value, row = [key, value]
        ∧ (∃ v, r.resolve key = .ok v) ∧ ∃ v, r.resolve value = .ok v)
    ∧ (∀ m, toMultiMap r t = .ok m → m.Ordered
        ∧ (∀ k, (∃ texts, m.get? k = some texts) ↔ ∃ row ∈ t, r.keyText? row = some k)
        ∧ (∀ k texts, m.get? k = some texts →
            List.Forall₂ (fun row text => ∃ key value, row = [key, value]
                ∧ r.resolveText value = .ok text)
              (t.filter fun row => r.keyText? row = some k) texts)
        ∧ (m.map fun e => e.2.length).sum = t.length)
    ∧ ((∃ m, toMap r t = .ok m) ↔ ∀ row ∈ t, ∃ key value v, row = [key, value]
        ∧ r.resolve value = .ok v)
    ∧ ∀ m, toMap r t = .ok m → m.Ordered
        ∧ (∀ k, (∃ v, m.get? k = some v) ↔ ∃ row ∈ t, row.head? = some k)
        ∧ ∀ k v, m.get? k = some v → ∃ before value after,
            t = before ++ [k, value] :: after ∧ r.resolve value = .ok v
            ∧ ∀ row ∈ after, row.head? ≠ some k := by
  refine ⟨?_, ?_, ?_, ?_⟩
  · simp only [toMultiMap_eq_ok_iff, ← exists_texts_iff, ← exists_forall₂_iff]
    exact ⟨fun ⟨_, es, hes, _⟩ => ⟨es, hes⟩, fun ⟨es, hes⟩ => ⟨_, es, hes, rfl⟩⟩
  · intro m hm
    obtain ⟨es, hes, rfl⟩ := toMultiMap_eq_ok_iff.mp hm
    refine ⟨Assoc.ordered_gather es, ?_, ?_, ?_⟩
    · intro k
      rw [exists_mem_iff_of_forall₂ hes (Q := fun e => e.1 = k), ← Assoc.under_ne_nil_iff,
        Assoc.get?_gather]
      · split
        · rename_i hnil
          exact iff_of_false (fun ⟨_, h⟩ => nomatch h) (fun h => h hnil)
        · rename_i hne
          exact iff_of_true ⟨_, rfl⟩ hne
      · intro row e he
        rw [he.keyText?, Option.some.injEq]
    · intro k texts hk
      rw [Assoc.get?_gather] at hk
      split at hk
      · cases hk
      · exact Option.some.inj hk ▸ forall₂_under hes k
    · rw [hes.length_eq]
      exact Assoc.total_gather es
  · simp only [toMap_eq_ok_iff, ← exists_holds_iff, ← exists_forall₂_iff]
    exact ⟨fun ⟨_, es, hes, _⟩ => ⟨es, hes⟩, fun ⟨es, hes⟩ => ⟨_, es, hes, rfl⟩⟩
  · intro m hm
    obtain ⟨es, hes, rfl⟩ := toMap_eq_ok_iff.mp hm
    have hkey : ∀ k row e, Holds r row e → (row.head? = some k ↔ e.1 = k) := by
      rintro k row e ⟨value, rfl, -⟩
      rw [List.head?_cons, Option.some.injEq]
    refine ⟨(Assoc.ordered_ofList es).1, ?_, ?_⟩
    · intro k
      rw [exists_mem_iff_of_forall₂ hes (hkey k), ← Assoc.under_ne_nil_iff, Assoc.get?_ofList,
        ← Option.ne_none_iff_exists', Ne, List.getLast?_eq_none_iff]
    · intro k v hk
      rw [Assoc.get?_ofList] at hk
      obtain ⟨before, after, rfl, hafter⟩ := Assoc.exists_of_getLast?_under hk
      obtain ⟨rows, value, rows', rfl, hvalue, hrows'⟩ := exists_row_of_append hes
      refine ⟨rows, value, rows', rfl, hvalue, ?_⟩
      intro row hrow heq
      obtain ⟨e, he, hek⟩ :=
        (exists_mem_iff_of_forall₂ hrows' (hkey k)).mp ⟨row, hrow, heq⟩
      exact hafter e he hek

/-- Two spellings of one key and a key that is no tag: the texts come together
    under the key they share, the cells as they stand do not. -/
theorem maps_hold_rows_spellings :
    let r : Resolver := ⟨.object [("a", .string "k")], Store.empty, ⟨0, 0, 0⟩⟩
    let t : Table :=
      [["[CONF:a]", "1"], ["k", "[EMPTY]"], ["[CONF:a]", "3"], ["[conf:a]", "[NULL]"]]
    let lists : Assoc (List String) := [("[conf:a]", ["<nil>"]), ("k", ["1", "", "3"])]
    let values : Assoc Value :=
      [("[CONF:a]", .string "3"), ("[conf:a]", .null), ("k", .string "")]
    toMultiMap r t = .ok lists
      ∧ List.Forall₂ (fun row text => ∃ key value, row = [key, value]
          ∧ r.resolveText value = .ok text)
        (t.filter fun row => r.keyText? row = some "k") ["1", "", "3"]
      ∧ (lists.map fun e => e.2.length).sum = t.length
      ∧ toMap r t = .ok values
      ∧ ∃ before value after, t = before ++ ["[CONF:a]", value] :: after
        ∧ r.resolve value = .ok (.string "3") ∧ ∀ row ∈ after, row.head? ≠ some "[CONF:a]" := by
  intro r t lists values
  have hlists : toMultiMap r t = .ok lists := by decide +kernel
  have hvalues : toMap r t = .ok values := by
    refine toMap_eq_ok_iff.mpr ⟨[("[CONF:a]", .string "1"), ("k", .string ""),
      ("[CONF:a]", .string "3"), ("[conf:a]", .null)], ?_, by rfl⟩
    exact .cons ⟨"1", rfl, r.resolve_of_no_open (by decide)⟩ (.cons ⟨"[EMPTY]", rfl, rfl⟩
      (.cons ⟨"3", rfl, r.resolve_of_no_open (by decide)⟩ (.cons ⟨"[NULL]", rfl, rfl⟩ .nil)))
  obtain ⟨-, hmulti, -, hmap⟩ := maps_hold_rows r t
  obtain ⟨-, -, hunder, hcount⟩ := hmulti lists hlists
  obtain ⟨-, -, hlast⟩ := hmap values hvalues
  exact ⟨hlists, hunder "k" _ (by decide), hcount, hvalues, hlast "[CONF:a]" _ (by rfl)⟩

end Table

end Fixture
