import Mathlib.Data.List.Perm.Basic
import Mathlib.Order.Basic
import Mathlib.Data.String.Basic
import Fixture.Assoc

/-! # Entries in the order of their keys

    What is under a key after an entry was put in is known without looking at the
    order.  The order is kept all the same, and it makes contents and data the
    same thing: two lists that have the same under every key are equal. -/

namespace Fixture.Assoc

variable {α : Type}

/-- The keys increase, so that none occurs twice. -/
def Ordered (entries : Assoc α) : Prop := entries.Pairwise fun a b => a.1 < b.1

/-! ## What is under a key -/

/-- An entry in front is found first. -/
theorem get?_cons (k : String) (v : α) (entries : Assoc α) (key : String) :
    get? ((k, v) :: entries) key = if key = k then some v else get? entries key := by
  rw [get?, List.lookup_cons]
  by_cases h : key = k
  · rw [if_pos h, beq_iff_eq.mpr h]
  · rw [if_neg h, beq_eq_false_iff_ne.mpr h]
    rfl

theorem mem_of_get? {entries : Assoc α} {key : String} {v : α}
    (h : get? entries key = some v) : (key, v) ∈ entries := by
  induction entries with
  | nil => cases h
  | cons e entries ih =>
      obtain ⟨k, w⟩ := e
      rw [get?_cons] at h
      by_cases hk : key = k
      · rw [if_pos hk] at h
        rw [hk, Option.some.inj h]
        exact List.mem_cons_self ..
      · rw [if_neg hk] at h
        exact List.mem_cons_of_mem _ (ih h)

/-- **PUTTING IN** an entry changes what is under its key and nothing else. -/
theorem get?_insert (key : String) (value : α) (entries : Assoc α) (k : String) :
    get? (insert key value entries) k = if k = key then some value else get? entries k := by
  induction entries with
  | nil => exact get?_cons ..
  | cons e entries ih =>
      obtain ⟨key', v⟩ := e
      rw [insert, alter]
      split
      · rw [get?_cons]
      · split
        · rename_i heq
          subst heq
          rw [get?_cons, get?_cons]
          by_cases hk : k = key
          · rw [if_pos hk, if_pos hk]
          · rw [if_neg hk, if_neg hk, if_neg hk]
        · rename_i hne
          rw [get?_cons, get?_cons]
          by_cases hk : k = key'
          · rw [if_pos hk, if_pos hk, if_neg (fun h => hne (h.symm.trans hk))]
          · rw [if_neg hk, if_neg hk]
            exact ih

/-! ## The order -/

/-- An entry is the one that was put in or was there before. -/
theorem mem_alter {f : Option α → α} {key : String} {entries : Assoc α} {e : String × α}
    (h : e ∈ alter f key entries) : (∃ old, e = (key, f old)) ∨ e ∈ entries := by
  induction entries with
  | nil => exact Or.inl ⟨none, List.mem_singleton.mp h⟩
  | cons e' entries ih =>
      obtain ⟨k, v⟩ := e'
      rw [alter] at h
      split at h
      · exact (List.mem_cons.mp h).imp_left fun he => ⟨none, he⟩
      · split at h
        · rcases List.mem_cons.mp h with he | h
          · exact Or.inl ⟨some v, he⟩
          · exact Or.inr (List.mem_cons_of_mem _ h)
        · rcases List.mem_cons.mp h with rfl | h
          · exact Or.inr (List.mem_cons_self ..)
          · exact (ih h).imp_right (List.mem_cons_of_mem _)

/-- Entries are put in at their places. -/
theorem Ordered.alter {entries : Assoc α} (h : Ordered entries) (f : Option α → α)
    (key : String) : Ordered (alter f key entries) := by
  induction entries with
  | nil => exact List.pairwise_singleton ..
  | cons e entries ih =>
      obtain ⟨k, v⟩ := e
      obtain ⟨hfirst, hrest⟩ := List.pairwise_cons.mp h
      rw [Assoc.alter]
      split
      · rename_i hlt
        refine List.pairwise_cons.mpr ⟨?_, h⟩
        intro e' he'
        rcases List.mem_cons.mp he' with rfl | he'
        · exact hlt
        · exact lt_trans hlt (hfirst e' he')
      · split
        · rename_i heq
          subst heq
          exact List.pairwise_cons.mpr ⟨hfirst, hrest⟩
        · rename_i hlt hne
          refine List.pairwise_cons.mpr ⟨?_, ih hrest⟩
          intro e' he'
          rcases mem_alter he' with ⟨old, rfl⟩ | he'
          · exact lt_of_le_of_ne (not_lt.mp hlt) (Ne.symm hne)
          · exact hfirst e' he'

theorem Ordered.insert {entries : Assoc α} (h : Ordered entries) (key : String) (value : α) :
    Ordered (insert key value entries) :=
  h.alter _ key

/-- **A LIST OF ENTRIES** is put into order, and no entry comes from elsewhere. -/
theorem ordered_ofList (es : List (String × α)) :
    Ordered (ofList es) ∧ ∀ e ∈ ofList es, e ∈ es := by
  suffices h : ∀ acc : Assoc α, Ordered acc →
      Ordered (es.foldl (fun acc e => insert e.1 e.2 acc) acc)
      ∧ ∀ e ∈ es.foldl (fun acc e => insert e.1 e.2 acc) acc, e ∈ es ∨ e ∈ acc by
    obtain ⟨hordered, hmem⟩ := h [] .nil
    exact ⟨hordered, fun e he => (hmem e he).resolve_right List.not_mem_nil⟩
  induction es with
  | nil => exact fun acc hacc => ⟨hacc, fun e he => Or.inr he⟩
  | cons e es ih =>
      intro acc hacc
      obtain ⟨hordered, hmem⟩ := ih _ (hacc.insert e.1 e.2)
      refine ⟨hordered, fun e' he' => ?_⟩
      rcases hmem e' he' with hes | hinserted
      · exact Or.inl (List.mem_cons_of_mem e hes)
      · rcases mem_alter hinserted with ⟨old, rfl⟩ | hrest
        · exact Or.inl (List.mem_cons_self ..)
        · exact Or.inr hrest

/-- In the order of the keys an entry is what is under its key. -/
theorem Ordered.get?_of_mem {entries : Assoc α} (h : Ordered entries) {key : String} {v : α}
    (hmem : (key, v) ∈ entries) : get? entries key = some v := by
  induction entries with
  | nil => cases hmem
  | cons e entries ih =>
      obtain ⟨k, w⟩ := e
      obtain ⟨hfirst, hrest⟩ := List.pairwise_cons.mp h
      rw [get?_cons]
      rcases List.mem_cons.mp hmem with heq | hmem
      · obtain ⟨rfl, rfl⟩ := Prod.mk.inj heq
        rw [if_pos rfl]
      · rw [if_neg (ne_of_gt (hfirst _ hmem))]
        exact ih hrest hmem

/-- No key of what is behind an entry is that of the entry. -/
theorem Ordered.get?_tail {k : String} {v : α} {entries : Assoc α}
    (h : Ordered ((k, v) :: entries)) : get? entries k = none := by
  cases hw : get? entries k with
  | none => rfl
  | some w => exact absurd ((List.pairwise_cons.mp h).1 _ (mem_of_get? hw)) (lt_irrefl k)

/-- **CHANGING** what is under a key changes nothing else, and the change is made
    to what is under the key wherever that is: behind a greater key it is not. -/
theorem Ordered.get?_alter {entries : Assoc α} (h : Ordered entries) (f : Option α → α)
    (key k : String) :
    get? (Assoc.alter f key entries) k
      = if k = key then some (f (get? entries key)) else get? entries k := by
  induction entries with
  | nil => exact get?_cons ..
  | cons e entries ih =>
      obtain ⟨key', v⟩ := e
      obtain ⟨hfirst, hrest⟩ := List.pairwise_cons.mp h
      rw [Assoc.alter]
      split
      · rename_i hlt
        have hnone : get? ((key', v) :: entries) key = none := by
          cases hw : get? ((key', v) :: entries) key with
          | none => rfl
          | some w =>
              rcases List.mem_cons.mp (mem_of_get? hw) with heq | hmem
              · exact absurd ((Prod.mk.inj heq).1 ▸ hlt) (lt_irrefl _)
              · exact absurd (hlt.trans (hfirst _ hmem)) (lt_irrefl _)
        rw [get?_cons, hnone]
      · split
        · rename_i heq
          subst heq
          rw [get?_cons, get?_cons, get?_cons, if_pos rfl]
          by_cases hk : k = key
          · rw [if_pos hk, if_pos hk]
          · rw [if_neg hk, if_neg hk, if_neg hk]
        · rename_i hne
          rw [get?_cons, get?_cons, get?_cons, if_neg hne, ih hrest]
          by_cases hk : k = key'
          · rw [if_pos hk, if_pos hk, if_neg (fun h => hne (h.symm.trans hk))]
          · rw [if_neg hk, if_neg hk]

/-- **CONTENTS AND DATA** are the same in the order of the keys. -/
theorem Ordered.eq_of_get? {entries entries' : Assoc α} (h : Ordered entries)
    (h' : Ordered entries') (hget : ∀ key, get? entries key = get? entries' key) :
    entries = entries' := by
  have hmem : ∀ e, e ∈ entries ↔ e ∈ entries' := by
    intro e
    constructor
    · intro he
      exact mem_of_get? ((hget e.1).symm.trans (h.get?_of_mem he))
    · intro he
      exact mem_of_get? ((hget e.1).trans (h'.get?_of_mem he))
  have hnodup : ∀ {es : Assoc α}, Ordered es → es.Nodup :=
    fun hes => hes.imp fun hlt heq => absurd (heq ▸ hlt) (lt_irrefl _)
  refine List.Perm.eq_of_pairwise ?_ h h'
    ((List.perm_ext_iff_of_nodup (hnodup h) (hnodup h')).mpr hmem)
  intro a b _ _ hab hba
  exact absurd hab (lt_asymm hba)

end Fixture.Assoc
