import Fixture.Environment.Load
import Fixture.Json.Path
import Fixture.Proofs.Keys
import Fixture.Proofs.Loops

/-! # Layers of settings

    An environment is loaded from two layers of settings.  What their merge is
    said to be does not depend on how it is computed: under each key stands what
    one of the layers has, if only one has it, the merge of both if both have
    mappings there, and otherwise what the upper layer has.  From this alone
    follows what a path of keys leads to in the document. -/

namespace Fixture

open Assoc (get? Ordered)

namespace Setting

/-- The setting is a mapping. -/
def IsMapping (s : Setting) : Prop := ∃ entries, s = .mapping entries

theorem isMapping_mapping (entries : List (String × Setting)) : (mapping entries).IsMapping :=
  ⟨entries, rfl⟩

instance decidableIsMapping : DecidablePred IsMapping
  | .mapping entries => .isTrue (isMapping_mapping entries)
  | .null | .bool _ | .unsigned _ | .signed _ | .float _ | .text _ | .sequence _ =>
      .isFalse fun ⟨_, h⟩ => nomatch h

/-! ## Settings in order -/

/-- In every mapping, however deep inside of others, the keys increase. -/
inductive Canonical : Setting → Prop where
  | mapping {entries : List (String × Setting)} (ordered : Ordered entries)
      (values : ∀ e ∈ entries, Canonical e.2) : Canonical (.mapping entries)
  | other {s : Setting} (h : ¬ s.IsMapping) : Canonical s

/-- The keys of a mapping that is in order are in order. -/
theorem Canonical.ordered {entries : List (String × Setting)}
    (h : Canonical (.mapping entries)) : Ordered entries := by
  cases h with
  | mapping ordered values => exact ordered
  | other h => exact absurd (isMapping_mapping entries) h

theorem Canonical.value {entries : List (String × Setting)} (h : Canonical (.mapping entries))
    {key : String} {s : Setting} (hs : get? entries key = some s) : s.Canonical := by
  cases h with
  | mapping ordered values => exact values _ (Assoc.mem_of_get? hs)
  | other h => exact absurd (isMapping_mapping entries) h

/-- A scalar is no mapping. -/
theorem not_isMapping_ofFloat (x : Binary64) : ¬ (ofFloat x).IsMapping := by
  rintro ⟨entries, h⟩
  cases x <;> cases h

theorem not_isMapping_integer? {s : List Char} {n : Setting} (h : integer? s = some n) :
    ¬ n.IsMapping := by
  rintro ⟨entries, rfl⟩
  simp only [integer?, Option.bind_eq_bind, Option.bind_eq_some_iff] at h
  obtain ⟨n, -, h⟩ := h
  split at h
  · split at h <;> cases h
  · split at h <;> cases h

theorem not_isMapping_ofPlain (s : List Char) : ¬ (ofPlain s).IsMapping := by
  rintro ⟨entries, h⟩
  simp only [ofPlain] at h
  split at h
  · cases h
  · split at h
    · cases h
    · split at h
      · rename_i n hn
        exact not_isMapping_integer? hn ⟨entries, h⟩
      · split at h
        · exact not_isMapping_ofFloat _ ⟨entries, h⟩
        · cases h

/-- No scalar is a mapping, whatever its tag. -/
theorem not_isMapping_ofScalar? {kind : Yaml.Kind} {form : Yaml.Form} {s : List Char}
    {a : Setting} (h : ofScalar? kind form s = some a) : ¬ a.IsMapping := by
  rw [ofScalar?] at h
  split at h
  · obtain rfl := Option.some.inj h
    exact fun ⟨_, he⟩ => nomatch he
  · split at h
    · obtain rfl := Option.some.inj h
      exact not_isMapping_ofPlain s
    · obtain ⟨t, -, rfl⟩ := Option.map_eq_some_iff.mp h
      exact fun ⟨_, he⟩ => nomatch he

/-- The values of entries that have one are in order. -/
def EntriesCanonical (es : List Entry) : Prop := ∀ e ∈ es, ∀ s, e.2 = some s → Canonical s

/-- Entries that are left when keys repeat were there before. -/
theorem firsts_subset {seen : List Key} {es : List Entry} : firsts seen es ⊆ es := by
  induction es generalizing seen with
  | nil => exact List.Subset.refl _
  | cons e es ih =>
      obtain ⟨key, value⟩ := e
      rw [firsts]
      split
      · exact List.subset_cons_of_subset _ ih
      · exact List.cons_subset_cons _ ih

/-- What is among the results comes from something in the list. -/
theorem exists_of_mem_mapM {α β : Type} {f : α → Option β} {l : List α} {m : List β}
    (h : l.mapM f = some m) {b : β} (hb : b ∈ m) : ∃ a ∈ l, f a = some b := by
  induction l generalizing m with
  | nil =>
      obtain rfl := Option.some.inj h
      cases hb
  | cons a l ih =>
      rw [List.mapM_cons] at h
      obtain ⟨b', hb', h⟩ := Option.bind_eq_some_iff.mp h
      obtain ⟨m', hm', h⟩ := Option.bind_eq_some_iff.mp h
      obtain rfl := Option.some.inj h
      rcases List.mem_cons.mp hb with rfl | hb
      · exact ⟨a, List.mem_cons_self .., hb'⟩
      · obtain ⟨a', ha', hfa'⟩ := ih hm' hb
        exact ⟨a', List.mem_cons_of_mem a ha', hfa'⟩

/-- Entries in order make up a mapping in order. -/
theorem canonical_of_ofEntries? {own merged : List Entry} {s : Setting}
    (hown : EntriesCanonical own) (hmerged : EntriesCanonical merged)
    (h : ofEntries? own merged = some s) : Canonical s := by
  rw [ofEntries?] at h
  split at h
  · obtain ⟨entries, hentries, h⟩ := Option.bind_eq_some_iff.mp h
    obtain rfl := Option.some.inj h
    obtain ⟨hordered, hmem⟩ := Assoc.ordered_ofList entries
    refine .mapping hordered fun e he => ?_
    obtain ⟨⟨key, value⟩, hentry, he⟩ := exists_of_mem_mapM hentries (hmem e he)
    obtain ⟨text, -, he⟩ := Option.bind_eq_some_iff.mp he
    obtain ⟨v, hv, he⟩ := Option.bind_eq_some_iff.mp he
    obtain rfl := Option.some.inj he
    -- an entry that is kept is one of the mapping itself or one that was merged into it
    rcases List.mem_append.mp (firsts_subset hentry) with hentry | hentry
    · exact hown _ hentry v hv
    · exact hmerged _ hentry v hv
  · cases h

/-- Entries of two lists in order are in order together. -/
theorem EntriesCanonical.append {es es' : List Entry} (h : EntriesCanonical es)
    (h' : EntriesCanonical es') : EntriesCanonical (es ++ es') := by
  intro e he
  rcases List.mem_append.mp he with he | he
  · exact h e he
  · exact h' e he

theorem entriesCanonical_nil : EntriesCanonical [] := fun _ he => nomatch he

mutual

/-- **WHAT A NODE MEANS** is in order, whatever was merged into it. -/
theorem canonical_of_ofNode? : ∀ {n : Yaml.Node} {s : Setting}, ofNode? n = some s → Canonical s
  | .scalar .., s, h => .other (not_isMapping_ofScalar? h)
  | .sequence items, s, h => by
      rw [ofNode?] at h
      obtain ⟨ss, -, rfl⟩ := Option.map_eq_some_iff.mp h
      exact .other fun ⟨_, he⟩ => nomatch he
  | .mapping entries, s, h => by
      rw [ofNode?] at h
      obtain ⟨⟨own, merged⟩, hdivide, h⟩ := Option.bind_eq_some_iff.mp h
      obtain ⟨hown, hmerged⟩ := canonical_of_divide hdivide
      exact canonical_of_ofEntries? hown hmerged h

/-- The entries of a mapping are in order, its own and those it merges. -/
theorem canonical_of_divide :
    ∀ {entries : List (Yaml.Node × Yaml.Node)} {own merged : List Entry},
    divide entries = some (own, merged) → EntriesCanonical own ∧ EntriesCanonical merged
  | [], own, merged, h => by
      obtain ⟨rfl, rfl⟩ := Prod.mk.inj (Option.some.inj h)
      exact ⟨entriesCanonical_nil, entriesCanonical_nil⟩
  | (key, value) :: entries, own, merged, h => by
      rw [divide] at h
      obtain ⟨⟨own', merged'⟩, hdivide, h⟩ := Option.bind_eq_some_iff.mp h
      obtain ⟨hown, hmerged⟩ := canonical_of_divide hdivide
      dsimp only at h
      split at h
      · obtain ⟨more, hmore, h⟩ := Option.bind_eq_some_iff.mp h
        obtain ⟨rfl, rfl⟩ := Prod.mk.inj (Option.some.inj h)
        exact ⟨hown, hmerged.append (canonical_of_offered hmore)⟩
      · obtain ⟨k, -, h⟩ := Option.bind_eq_some_iff.mp h
        obtain ⟨rfl, rfl⟩ := Prod.mk.inj (Option.some.inj h)
        refine ⟨fun e he => ?_, hmerged⟩
        rcases List.mem_cons.mp he with rfl | he
        · exact fun s hs => canonical_of_ofNode? hs
        · exact hown e he

/-- So is what a node offers to be merged. -/
theorem canonical_of_offered : ∀ {n : Yaml.Node} {es : List Entry}, offered n = some es →
    EntriesCanonical es
  | .scalar .., es, h => by
      rw [offered] at h
      split at h
      · obtain rfl := Option.some.inj h
        exact entriesCanonical_nil
      · cases h
  | .sequence items, es, h => by
      rw [offered] at h
      exact canonical_of_offeredItems h
  | .mapping entries, es, h => by
      rw [offered] at h
      obtain ⟨⟨own, merged⟩, hdivide, h⟩ := Option.bind_eq_some_iff.mp h
      obtain rfl := Option.some.inj h
      obtain ⟨hown, hmerged⟩ := canonical_of_divide hdivide
      exact hown.append hmerged

theorem canonical_of_offeredItems : ∀ {items : List Yaml.Node} {es : List Entry},
    offeredItems items = some es → EntriesCanonical es
  | [], es, h => by
      obtain rfl := Option.some.inj h
      exact entriesCanonical_nil
  | item :: items, es, h => by
      rw [offeredItems] at h
      obtain ⟨more, hmore, h⟩ := Option.bind_eq_some_iff.mp h
      obtain ⟨these, hthese, h⟩ := Option.bind_eq_some_iff.mp h
      obtain rfl := Option.some.inj h
      exact (canonical_of_offeredItems hmore).append (canonical_of_offered hthese)

end

/-- The setting that a text describes is in order. -/
theorem canonical_of_ofYaml? {text : String} {s : Setting} (h : ofYaml? text = some s) :
    Canonical s := by
  rw [ofYaml?, ite_eq_iff] at h
  obtain ⟨-, h⟩ | ⟨-, h⟩ := h
  · cases h
  · obtain ⟨n?, -, h⟩ := Option.bind_eq_some_iff.mp h
    cases n? with
    | none =>
        obtain rfl := Option.some.inj h
        exact .other fun ⟨_, he⟩ => nomatch he
    | some n => exact canonical_of_ofNode? h

/-! ## What a merge is -/

/-- `merged` is what the layers come to.  Under a key that only one of them has
    stands what it has there, under a key of both the merge of both; unless both
    are mappings the upper layer is taken as it is. -/
inductive Merges : Setting → Setting → Setting → Prop where
  | mappings {lower upper merged : List (String × Setting)} {common : String → Setting}
      (ordered : Ordered merged)
      (onlyLower : ∀ key, get? upper key = none → get? merged key = get? lower key)
      (onlyUpper : ∀ key, get? lower key = none → get? merged key = get? upper key)
      (both : ∀ key a b, get? lower key = some a → get? upper key = some b →
        get? merged key = some (common key))
      (merges : ∀ key a b, get? lower key = some a → get? upper key = some b →
        Merges a b (common key)) :
      Merges (.mapping lower) (.mapping upper) (.mapping merged)
  | replaced {lower upper : Setting} (h : ¬ (lower.IsMapping ∧ upper.IsMapping)) :
      Merges lower upper upper

/-- **TWO LAYERS COME TO ONE SETTING** and no other. -/
theorem Merges.unique {lower upper merged merged' : Setting} (h : Merges lower upper merged)
    (h' : Merges lower upper merged') : merged = merged' := by
  induction h generalizing merged' with
  | @mappings lower upper merged common ordered onlyLower onlyUpper both merges ih =>
      cases h' with
      | replaced h' => exact absurd ⟨isMapping_mapping _, isMapping_mapping _⟩ h'
      | @mappings _ _ merged' common' ordered' onlyLower' onlyUpper' both' merges' =>
          refine congrArg mapping (ordered.eq_of_get? ordered' fun key => ?_)
          cases hupper : get? upper key with
          | none => rw [onlyLower key hupper, onlyLower' key hupper]
          | some b =>
              cases hlower : get? lower key with
              | none => rw [onlyUpper key hlower, onlyUpper' key hlower]
              | some a =>
                  rw [both key a b hlower hupper, both' key a b hlower hupper,
                    ih key a b hlower hupper (merges' key a b hlower hupper)]
  | replaced h =>
      cases h' with
      | replaced => rfl
      | mappings => exact absurd ⟨isMapping_mapping _, isMapping_mapping _⟩ h

/-! ## What merging gives -/

/-- Unless both are mappings the upper setting is all that is left. -/
theorem merge_of_not_isMapping {lower upper : Setting}
    (h : ¬ (lower.IsMapping ∧ upper.IsMapping)) : merge lower upper = upper := by
  cases upper with
  | mapping entries =>
      cases lower with
      | mapping old => exact absurd ⟨isMapping_mapping _, isMapping_mapping _⟩ h
      | null | bool | unsigned | signed | float | text | sequence => rfl
  | null | bool | unsigned | signed | float | text | sequence => rfl

/-- A setting above what may be below it. -/
def above (lower? : Option Setting) (upper : Setting) : Setting :=
  match lower? with
  | some lower => merge lower upper
  | none => upper

/-- The entries of the upper layer are put in one after another. -/
theorem mergeEntries_cons (lower : List (String × Setting)) (key : String) (upper : Setting)
    (entries : List (String × Setting)) :
    mergeEntries lower ((key, upper) :: entries)
      = mergeEntries (Assoc.insert key (above (get? lower key) upper) lower) entries := by
  rw [mergeEntries]
  cases get? lower key <;> rfl

/-- **UNDER A KEY** stands what the upper layer has there, above what the lower
    layer has there. -/
theorem get?_mergeEntries (lower : List (String × Setting)) {upper : List (String × Setting)}
    (h : Ordered upper) (key : String) :
    get? (mergeEntries lower upper) key
      = ((get? upper key).map (above (get? lower key))).or (get? lower key) := by
  induction upper generalizing lower with
  | nil => rfl
  | cons e upper ih =>
      obtain ⟨k, u⟩ := e
      rw [mergeEntries_cons, ih _ (List.pairwise_cons.mp h).2, Assoc.get?_insert, Assoc.get?_cons]
      by_cases hk : key = k
      · -- the key does not occur again
        rw [if_pos hk, if_pos hk, hk, h.get?_tail]
        rfl
      · rw [if_neg hk, if_neg hk]

/-- Merging keeps the keys in order. -/
theorem ordered_mergeEntries {lower : List (String × Setting)} (h : Ordered lower)
    (upper : List (String × Setting)) : Ordered (mergeEntries lower upper) := by
  induction upper generalizing lower with
  | nil => exact h
  | cons e upper ih =>
      rw [mergeEntries_cons]
      exact ih (h.insert ..)

/-- **THE MERGE OF TWO LAYERS** is what they come to. -/
theorem merges_merge {lower upper : Setting} (hlower : Canonical lower)
    (hupper : Canonical upper) : Merges lower upper (merge lower upper) := by
  by_cases h : lower.IsMapping ∧ upper.IsMapping
  · obtain ⟨⟨old, rfl⟩, ⟨entries, rfl⟩⟩ := h
    have hget := get?_mergeEntries old hupper.ordered
    let common (key : String) : Setting :=
      ((get? entries key).map (above (get? old key))).getD .null
    have hcommon {key : String} {a b : Setting} (ha : get? old key = some a)
        (hb : get? entries key = some b) : common key = merge a b := by
      change ((get? entries key).map (above (get? old key))).getD .null = _
      rw [ha, hb]
      rfl
    refine @Merges.mappings old entries _ common
      (ordered_mergeEntries hlower.ordered entries) ?_ ?_ ?_ ?_
    · intro key hkey
      rw [hget, hkey]
      rfl
    · intro key hkey
      rw [hget, hkey]
      cases get? entries key <;> rfl
    · intro key a b ha hb
      rw [hget, ha, hb, hcommon ha hb]
      rfl
    · intro key a b ha hb
      rw [hcommon ha hb]
      exact merges_merge (hlower.value ha) (hupper.value hb)
  · rw [merge_of_not_isMapping h]
    exact .replaced h
termination_by upper
decreasing_by
  -- what is under a key is smaller than the mapping that has it
  have := List.sizeOf_lt_of_mem (Assoc.mem_of_get? hb)
  simp_all
  omega

end Setting

end Fixture
