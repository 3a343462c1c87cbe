import Fixture.Convert.Array
import Fixture.Convert.Scalar
import Fixture.Proofs.ArrayText
import Fixture.Proofs.Loops

/-! # Items of lists

    A list is converted item by item, but its first item has a say in all of them:
    it sets the family that the others must belong to.  An item can fail in two
    ways then, by being of another family or by not being convertible, and what is
    reported is whatever is wrong with the first item that something is wrong
    with. -/

namespace Fixture

namespace Family

/-- The documents of a family. -/
inductive Holds : Family → Json → Prop
  | bool (b : Bool) : Holds .bool (.bool b)
  | number (n : JsonNumber) : Holds .number (.number n)
  | string (s : String) : Holds .string (.string s)

/-- The family of an item is the one it belongs to. -/
theorem of?_eq_some_iff {family : Family} {j : Json} :
    of? j = some family ↔ family.Holds j := by
  constructor
  · intro h
    cases j with
    | bool b => exact Option.some.inj h ▸ .bool b
    | number n => exact Option.some.inj h ▸ .number n
    | string s => exact Option.some.inj h ▸ .string s
    | null | array | object => cases h
  · rintro (b | n | s)
    · rfl
    · rfl
    · rfl

/-- The documents of no family. -/
def Unsupported (j : Json) : Prop :=
  j = .null ∨ (∃ items, j = .array items) ∨ ∃ members, j = .object members

theorem of?_eq_none_iff {j : Json} : of? j = none ↔ Unsupported j := by
  cases j with
  | null => exact iff_of_true rfl (Or.inl rfl)
  | array items => exact iff_of_true rfl (Or.inr (Or.inl ⟨items, rfl⟩))
  | object members => exact iff_of_true rfl (Or.inr (Or.inr ⟨members, rfl⟩))
  | bool | number | string =>
      refine iff_of_false (fun h => nomatch h) ?_
      rintro (h | ⟨_, h⟩ | ⟨_, h⟩) <;> cases h

/-- There is no third kind of items. -/
theorem unsupported_or_holds (j : Json) : Unsupported j ∨ ∃ family : Family, family.Holds j := by
  cases h : of? j with
  | none => exact Or.inl (of?_eq_none_iff.mp h)
  | some family => exact Or.inr ⟨family, of?_eq_some_iff.mp h⟩

/-- An item that is not supported belongs to no family. -/
theorem Unsupported.not_holds {j : Json} (h : Unsupported j) (family : Family) :
    ¬ family.Holds j := by
  intro hj
  have hnone := of?_eq_none_iff.mpr h
  rw [of?_eq_some_iff.mpr hj] at hnone
  cases hnone

/-- No document belongs to two families. -/
theorem Holds.unique {j : Json} {family family' : Family} (h : family.Holds j)
    (h' : family'.Holds j) : family' = family :=
  Option.some.inj ((of?_eq_some_iff.mpr h').symm.trans (of?_eq_some_iff.mpr h))

end Family

namespace Convert

variable {α : Type} {target : String} {family : Family} {item : Value → Except Fault α}
  {j : Json} {js : List Json}

/-! ## One item -/

/-- Converts the item numbered `index` of a list of a family. -/
def itemAt (target : String) (family : Family) (item : Value → Except Fault α) (index : Nat)
    (j : Json) : Except Fault α :=
  if Family.of? j = some family then item (Value.ofJson j)
  else .error (.parse target j.text ("element " ++ toString index ++ " is not a " ++ family.name))

/-- What the item numbered `index` fails with: that it is of another family than
    the first one, or else what its own conversion fails with. -/
def ItemFails (target : String) (family : Family) (item : Value → Except Fault α) (index : Nat)
    (j : Json) (e : Fault) : Prop :=
  (¬ family.Holds j ∧ e = .parse target j.text
      ("element " ++ toString index ++ " is not a " ++ family.name))
  ∨ (family.Holds j ∧ item (Value.ofJson j) = .error e)

/-- An item is read if it belongs to the family and can be converted. -/
theorem itemAt_eq_ok_iff {index : Nat} {x : α} :
    itemAt target family item index j = .ok x
      ↔ family.Holds j ∧ item (Value.ofJson j) = .ok x := by
  rw [itemAt, ← Family.of?_eq_some_iff]
  split
  · rename_i h
    rw [and_iff_right h]
  · rename_i h
    exact iff_of_false (fun h' => nomatch h') (fun h' => h h'.1)

theorem itemAt_eq_error_iff {index : Nat} {e : Fault} :
    itemAt target family item index j = .error e ↔ ItemFails target family item index j e := by
  rw [itemAt, ItemFails, ← Family.of?_eq_some_iff]
  split
  · rename_i h
    rw [and_iff_right h, or_iff_right (fun h' => h'.1 h)]
  · rename_i h
    rw [and_iff_right h, or_iff_left (fun h' => h h'.1), Except.error.injEq, eq_comm]

/-! ## All items -/

/-- Items are read one after another, each with its place. -/
theorem itemsFrom_eq_mapM (index : Nat) (js : List Json) :
    itemsFrom target family item index js
      = (js.zipIdx index).mapM fun e => itemAt target family item e.2 e.1 := by
  induction js generalizing index with
  | nil => rfl
  | cons j js ih =>
      rw [itemsFrom, List.zipIdx_cons, List.mapM_cons, itemAt, ih]
      split <;> rfl

theorem itemsFrom_eq_ok_iff {index : Nat} {xs : List α} :
    itemsFrom target family item index js = .ok xs
      ↔ List.Forall₂ (fun j x => family.Holds j ∧ item (Value.ofJson j) = .ok x) js xs := by
  rw [itemsFrom_eq_mapM]
  exact mapM_zipIdx_eq_ok_iff (fun _ _ _ => itemAt_eq_ok_iff) index

/-- What the items fail with is what the first failing one fails with. -/
theorem itemsFrom_eq_error_iff {e : Fault} :
    itemsFrom target family item 0 js = .error e
      ↔ ∃ i j, js[i]? = some j ∧ ItemFails target family item i j e
        ∧ ∀ i' < i, ∀ j', js[i']? = some j' →
          family.Holds j' ∧ ∃ x, item (Value.ofJson j') = .ok x := by
  rw [itemsFrom_eq_mapM, ← failure?_eq_some_iff, failure?_mapM_zipIdx, first?_eq_some_iff]
  simp only [Nat.zero_add, failure?_eq_some_iff, failure?_eq_none_iff, itemAt_eq_error_iff,
    itemAt_eq_ok_iff, exists_and_left]

/-! ## Lists -/

/-- An array that begins with an unsupported item fails at once. -/
theorem items_of_unsupported (h : Family.Unsupported j) (js : List Json) :
    items target item (j :: js)
      = .error (.parse target j.text "unsupported array element type") := by
  rw [items, Family.of?_eq_none_iff.mpr h]

/-- The first item decides on the family of all. -/
theorem items_of_holds (h : family.Holds j) (js : List Json) :
    items target item (j :: js) = itemsFrom target family item 0 (j :: js) := by
  rw [items, Family.of?_eq_some_iff.mpr h]

/-- An array is read if it is empty, or if all items belong to one family and can be
    converted. -/
theorem exists_items_iff :
    (∃ xs, items target item js = .ok xs) ↔ js = [] ∨ ∃ family : Family,
      ∀ j ∈ js, family.Holds j ∧ ∃ x, item (Value.ofJson j) = .ok x := by
  cases js with
  | nil => exact iff_of_true ⟨[], rfl⟩ (Or.inl rfl)
  | cons first rest =>
      rw [or_iff_right (List.cons_ne_nil first rest)]
      rcases Family.unsupported_or_holds first with h | ⟨family, h⟩
      · rw [items_of_unsupported h]
        refine iff_of_false (fun ⟨_, h'⟩ => nomatch h') ?_
        rintro ⟨family, hall⟩
        exact h.not_holds family (hall first (List.mem_cons_self ..)).1
      · rw [items_of_holds h]
        simp only [itemsFrom_eq_ok_iff, exists_forall₂_iff, exists_and_left]
        constructor
        · intro hall
          exact ⟨family, hall⟩
        · rintro ⟨family', hall⟩
          exact h.unique (hall first (List.mem_cons_self ..)).1 ▸ hall

/-- What is read are the items, each converted. -/
theorem forall₂_of_items {xs : List α} (h : items target item js = .ok xs) :
    List.Forall₂ (fun j x => item (Value.ofJson j) = .ok x) js xs := by
  cases js with
  | nil =>
      obtain rfl := Except.ok.inj h
      exact .nil
  | cons first rest =>
      rcases Family.unsupported_or_holds first with hfirst | ⟨family, hfirst⟩
      · rw [items_of_unsupported hfirst] at h
        cases h
      · rw [items_of_holds hfirst] at h
        exact (itemsFrom_eq_ok_iff.mp h).imp fun _ _ hx => hx.2

/-- An array fails at a first item that is not supported, or at the first one that fails in the
    family of the first. -/
theorem items_eq_error_iff {e : Fault} :
    items target item js = .error e ↔
      (∃ first, js.head? = some first ∧ Family.Unsupported first
        ∧ e = .parse target first.text "unsupported array element type")
      ∨ ∃ (family : Family) (first : Json) (i : Nat) (j : Json),
        js.head? = some first ∧ family.Holds first
        ∧ js[i]? = some j ∧ ItemFails target family item i j e
        ∧ ∀ i' < i, ∀ j', js[i']? = some j' →
          family.Holds j' ∧ ∃ x, item (Value.ofJson j') = .ok x := by
  cases js with
  | nil =>
      refine iff_of_false (fun h => nomatch h) ?_
      rintro (⟨_, h, -⟩ | ⟨_, _, _, _, h, -⟩) <;> cases h
  | cons first rest =>
      simp only [List.head?_cons, Option.some.injEq]
      rcases Family.unsupported_or_holds first with hfirst | ⟨family, hfirst⟩
      · rw [items_of_unsupported hfirst, Except.error.injEq]
        constructor
        · intro h
          exact Or.inl ⟨first, rfl, hfirst, h.symm⟩
        · rintro (⟨_, rfl, -, h⟩ | ⟨family, _, _, _, rfl, h, -⟩)
          · exact h.symm
          · exact absurd h (hfirst.not_holds family)
      · rw [items_of_holds hfirst, itemsFrom_eq_error_iff]
        constructor
        · rintro ⟨i, j, h⟩
          exact Or.inr ⟨family, first, i, j, rfl, hfirst, h⟩
        · rintro (⟨_, rfl, h, -⟩ | ⟨family', _, i, j, rfl, hfamily, h⟩)
          · exact absurd hfirst (h.not_holds family)
          · exact hfirst.unique hfamily ▸ ⟨i, j, h⟩

/-- **ITEMS OF A LIST**.  From an array a list is made exactly if it is empty, or if
    there is a family that every item belongs to and every item can be converted;
    then it holds item by item what they are converted to.  Otherwise its first item
    belongs to no family and is what fails, or the first one fails of its items that
    are of another family than that one or cannot be converted. -/
theorem list_of_items (target : String) (item : Value → Except Fault α) (v : Value)
    (js : List Json) (hsource : sourceItems target v = .ok js) :
    ((∃ xs, list target item v = .ok xs) ↔ js = [] ∨ ∃ family : Family,
        ∀ j ∈ js, family.Holds j ∧ ∃ x, item (Value.ofJson j) = .ok x)
    ∧ (∀ xs, list target item v = .ok xs →
        List.Forall₂ (fun j x => item (Value.ofJson j) = .ok x) js xs)
    ∧ ∀ e, list target item v = .error e ↔
        (∃ first, js.head? = some first ∧ Family.Unsupported first
          ∧ e = .parse target first.text "unsupported array element type")
        ∨ ∃ (family : Family) (first : Json) (i : Nat) (j : Json),
          js.head? = some first ∧ family.Holds first
          ∧ js[i]? = some j ∧ ItemFails target family item i j e
          ∧ ∀ i' < i, ∀ j', js[i']? = some j' →
            family.Holds j' ∧ ∃ x, item (Value.ofJson j') = .ok x := by
  have hlist : list target item v = items target item js := by
    rw [list, hsource]
    rfl
  rw [hlist]
  exact ⟨exists_items_iff, fun _ => forall₂_of_items, fun _ => items_eq_error_iff⟩

/-- A number that is too large in front of a text, and a null behind a truth value
    in the text of an array. -/
theorem list_of_items_mixed :
    let number (n : Int) (hn : IntType.i64.least ≤ n ∧ n ≤ IntType.u64.greatest) : Json :=
      .number (.integer n hn)
    let numbers : List Json :=
      [number 1 (by decide), number 300 (by decide), .string "x"]
    sourceItems "list" (.array numbers) = .ok numbers
      ∧ list "list" (optional (int .u8)) (.array numbers)
        = .error (.parse "u8" "300" "number too large to fit in target type")
      ∧ sourceItems "list" (.string "[true,null]") = .ok [.bool true, .null]
      ∧ list "list" bool (.string "[true,null]")
        = .error (.parse "list" "null" "element 1 is not a bool") := by
  intro number numbers
  have hnumbers : sourceItems "list" (.array numbers) = .ok numbers := rfl
  have hbools : sourceItems "list" (.string "[true,null]") = .ok [.bool true, .null] := by
    have htext : "[true,null]".toList = (Json.array [.bool true, .null]).render := by
      decide +kernel
    have hscalar : ∀ j ∈ [Json.bool true, .null], Json.IsItem j := by
      simp [Json.isItem_bool, Json.isItem_null]
    rw [sourceItems, htext, Json.readArray_render hscalar]
  obtain ⟨-, -, hfirst⟩ := list_of_items "list" (optional (int .u8)) _ _ hnumbers
  obtain ⟨-, -, hsecond⟩ := list_of_items "list" bool _ _ hbools
  refine ⟨hnumbers, (hfirst _).mpr (Or.inr ?_), hbools, (hsecond _).mpr (Or.inr ?_)⟩
  · refine ⟨.number, _, 1, _, rfl, .number _, rfl, Or.inr ⟨.number _, by decide +kernel⟩, ?_⟩
    rintro _ hlt j' hj'
    obtain rfl := Nat.lt_one_iff.mp hlt
    obtain rfl := Option.some.inj hj'
    exact ⟨.number _, some 1, by decide +kernel⟩
  · refine ⟨.bool, _, 1, _, rfl, .bool _, rfl, Or.inl ⟨?_, by rfl⟩, ?_⟩
    · intro h
      cases h
    rintro _ hlt j' hj'
    obtain rfl := Nat.lt_one_iff.mp hlt
    obtain rfl := Option.some.inj hj'
    exact ⟨.bool _, true, by decide +kernel⟩

end Convert

end Fixture
