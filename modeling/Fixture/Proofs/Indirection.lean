import Fixture.Proofs.Settled

/-! # Texts behind a single lookup

    A cell that is one lookup of a text stands for that text: the pass over its
    kind puts the text in its place, and the passes behind it see no difference.
    The cell and the text come together only if the passes up to there would have
    left the text alone, so it may hold tags of the kinds still to come and no
    others.  A value found by such a tag is given at once on both sides. -/

namespace Fixture

namespace Resolver

variable {r : Resolver} {k : TagKind} {key : List Char} {text : String}

/-! ## The pass of the lookup -/

/-- Only lookup tags find a text, and it is what they are replaced by. -/
theorem replacement_of_lookup (h : r.lookup k key = .string text) :
    r.replacement k key = .ok (some text.toList) := by
  cases k with
  | conf | ctxt =>
      rw [replacement, h]
      rfl
  | sha256 | base64 | now => cases h

/-- **THE TEXT IN PLACE OF THE TAG**: behind the pass of its kind a tag that finds
    a text has become the text. -/
theorem resolveKinds_of_lookup (ks : List TagKind) (hkey : ']' ∉ key)
    (h : r.lookup k key = .string text) :
    r.resolveKinds (k :: ks) (k.token key) = r.resolveKinds ks text.toList := by
  have hwhole : wholeTag? k (k.token key) = some key :=
    wholeTag?_eq_some_iff.mpr ⟨rfl, hkey⟩
  have hnative : r.native? k (k.token key) = none := by
    rw [native?_eq_bind, hwhole, Option.bind_some, h]
    rfl
  have hexpand : r.expand k (k.token key) = .ok text.toList := by
    rw [expand_of_wholeTag? hwhole, replacement_of_lookup h]
    rfl
  rw [resolveKinds, hnative, hexpand]
  rfl

/-! ## The passes in front of it -/

/-- A tag is none of the literals. -/
theorem token_ne_literal (k : TagKind) (key : List Char) (x : Sentinel) :
    k.token key ≠ x.literal := by
  intro h
  have hfront : k.opening <+: x.literal := by
    rw [← h, TagKind.token, List.append_assoc]
    exact List.prefix_append k.opening (key ++ [']'])
  exact (x.not_begins_opening k).2 hfront

/-- Where the passes in front of the lookup leave both the tag and the text
    alone, and its own pass leaves the text alone, the two are resolved alike. -/
theorem resolve_of_lookup (before ks : List TagKind) {cell : String}
    (horder : TagKind.order = before ++ k :: ks) (hcell : cell.toList = k.token key)
    (hkey : ']' ∉ key) (h : r.lookup k key = .string text)
    (htag : ∀ k' ∈ before, ¬ k'.OccursIn (k.token key))
    (htext : ∀ k' ∈ before ++ [k], ¬ k'.OccursIn text.toList)
    (hliteral : ∀ x : Sentinel, text.toList ≠ x.literal) :
    r.resolve cell = r.resolve text := by
  have hne : ∀ x : Sentinel, cell.toList ≠ x.literal := by
    rw [hcell]
    exact token_ne_literal k key
  have hsplit : TagKind.order = (before ++ [k]) ++ ks := by
    rw [horder, List.append_assoc, List.singleton_append]
  calc r.resolve cell
      = r.resolveKinds (before ++ k :: ks) (k.token key) := by
        rw [resolve_of_ne_literal hne, horder, hcell]
    _ = r.resolveKinds (k :: ks) (k.token key) :=
        resolveKinds_append_of_not_occursIn before (k :: ks) htag
    _ = r.resolveKinds ks text.toList := resolveKinds_of_lookup ks hkey h
    _ = r.resolveKinds ((before ++ [k]) ++ ks) text.toList :=
        (resolveKinds_append_of_not_occursIn (before ++ [k]) ks htext).symm
    _ = r.resolve text := by rw [resolve_of_ne_literal hliteral, ← hsplit]

/-! ## Both kinds of lookup -/

/-- **INDIRECTION IS TRANSPARENT**: a cell that is one lookup of a text in the
    environment has the value of that text as a cell, unless the text is a
    sentinel or has a configuration tag of its own; and so has a lookup in the
    store, for texts without tags of either kind. -/
theorem resolve_through_lookup (r : Resolver) (key text : String) (hkey : ']' ∉ key.toList)
    (hliteral : ∀ x : Sentinel, text.toList ≠ x.literal) :
    (r.environment.get key = .string text → ¬ TagKind.conf.OccursIn text.toList →
      r.resolve ("[CONF:" ++ key ++ "]") = r.resolve text)
    ∧ ('[' ∉ key.toList → r.scenario.get key = .string text →
      ¬ TagKind.conf.OccursIn text.toList → ¬ TagKind.ctxt.OccursIn text.toList →
      r.resolve ("[CTXT:" ++ key ++ "]") = r.resolve text) := by
  have hconf : ("[CONF:" ++ key ++ "]").toList = TagKind.conf.token key.toList := by
    rw [String.toList_append, String.toList_append]
    rfl
  have hctxt : ("[CTXT:" ++ key ++ "]").toList = TagKind.ctxt.token key.toList := by
    rw [String.toList_append, String.toList_append]
    rfl
  constructor
  · intro h htext
    have hlookup : r.lookup .conf key.toList = .string text := by
      rw [lookup, String.ofList_toList, h]
    refine resolve_of_lookup [] _ rfl hconf hkey hlookup ?_ ?_ hliteral
    · exact fun k hk => nomatch hk
    · intro k hk
      obtain rfl := List.mem_singleton.mp hk
      exact htext
  · intro hopen h htext htext'
    have hlookup : r.lookup .ctxt key.toList = .string text := by
      rw [lookup, String.ofList_toList, h]
    refine resolve_of_lookup [.conf] _ rfl hctxt hkey hlookup ?_ ?_ hliteral
    · intro k hk
      obtain rfl := List.mem_singleton.mp hk
      exact TagKind.not_occursIn_of_inert (TagKind.inert_opening_token (by decide) hopen)
    · intro k hk
      rcases List.mem_cons.mp hk with rfl | hk
      · exact htext
      · obtain rfl := List.mem_singleton.mp hk
        exact htext'

/-- A value of the store is given at once behind a text of the environment, and a
    text of the store may hold an opening that is never closed. -/
theorem resolve_through_lookup_number :
    let count := Value.number (Binary.ofInt 3)
    let r : Resolver :=
      { environment := .object [("a[b", .string "[CTXT:count]")]
        scenario := Store.ofList
          [("count", count), ("note", .string "[BASE64:a] [CONF:open")]
        clock := ⟨0, 0, 0⟩ }
    r.resolve "[CTXT:count]" = .ok count
      ∧ r.resolve "[CONF:a[b]" = .ok count
      ∧ r.resolve "[CTXT:note]" = r.resolve "[BASE64:a] [CONF:open" := by
  intro count r
  have hcount : r.resolve "[CTXT:count]" = .ok count := by
    rw [resolve_of_ne_literal (by rintro ⟨⟩ <;> decide), TagKind.order,
        resolveKinds_cons_of_not_occursIn _ (by decide +kernel)]
    rfl
  obtain ⟨hconf, -⟩ := resolve_through_lookup r "a[b" "[CTXT:count]" (by decide)
    (by rintro ⟨⟩ <;> decide)
  obtain ⟨-, hctxt⟩ := resolve_through_lookup r "note" "[BASE64:a] [CONF:open" (by decide)
    (by rintro ⟨⟩ <;> decide)
  refine ⟨hcount, ?_, ?_⟩
  · rw [← hcount]
    exact hconf rfl (by decide +kernel)
  · exact hctxt (by decide) rfl (by decide +kernel) (by decide +kernel)

end Resolver

end Fixture
