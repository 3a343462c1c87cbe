import Fixture.Proofs.Substitution

/-! # Texts that are one tag

    A cell may be a single lookup tag and nothing else.  The scan then finds
    that tag alone, so what the tag stands for and what the pass would write in
    its place come from the same lookup. -/

namespace Fixture

open Text

/-- A value that may be a cell as it is: neither text nor missing. -/
def Value.native? : Value → Option Value
  | .string _ | .null => none
  | v => some v

theorem Value.eq_of_native? {v w : Value} (h : v.native? = some w) : v = w := by
  cases v with
  | null | string => cases h
  | bool | number | array | object => exact Option.some.inj h

theorem Value.native?_eq_some_iff {v w : Value} :
    v.native? = some w ↔ v = w ∧ w ≠ .null ∧ ∀ t, w ≠ .string t := by
  constructor
  · intro h
    obtain rfl := eq_of_native? h
    refine ⟨rfl, ?_, ?_⟩
    · rintro rfl
      cases h
    · rintro t rfl
      cases h
  · rintro ⟨rfl, hnull, htext⟩
    cases v with
    | null => exact absurd rfl hnull
    | string t => exact absurd rfl (htext t)
    | bool | number | array | object => rfl

namespace Resolver

/-- A text is a single tag exactly if it is a token. -/
theorem wholeTag?_eq_some_iff {k : TagKind} {s c : List Char} :
    wholeTag? k s = some c ↔ s = k.token c ∧ ']' ∉ c := by
  constructor
  · intro h
    obtain ⟨inside, hfront, h⟩ := Option.bind_eq_some_iff.mp h
    obtain ⟨content, hback, h⟩ := Option.bind_eq_some_iff.mp h
    by_cases hc : ']' ∈ content
    · rw [if_pos hc] at h
      cases h
    · rw [if_neg hc] at h
      obtain rfl := Option.some.inj h
      refine ⟨?_, hc⟩
      rw [dropFront?_eq_some_iff.mp hfront, dropBack?_eq_some_iff.mp hback]
      simp [TagKind.token]
  · rintro ⟨rfl, hc⟩
    have hfront : dropFront? k.opening (k.token c) = some (c ++ [']']) :=
      dropFront?_eq_some_iff.mpr (by simp [TagKind.token])
    have hback : dropBack? [']'] (c ++ [']']) = some c :=
      dropBack?_eq_some_iff.mpr rfl
    show (dropFront? k.opening (k.token c)).bind _ = some c
    rw [hfront, Option.bind_some]
    show (dropBack? [']'] (c ++ [']'])).bind _ = some c
    rw [hback, Option.bind_some, if_neg hc]

/-- The scan of a single tag. -/
theorem scan_of_wholeTag? {k : TagKind} {s c : List Char}
    (h : wholeTag? k s = some c) : Segments.scan k s = ⟨[⟨[], c⟩], []⟩ := by
  obtain ⟨rfl, hc⟩ := wholeTag?_eq_some_iff.mp h
  have := Segments.scan_token_append (k := k) hc []
  rw [Segments.scan_nil, List.append_nil] at this
  exact this

/-- A text is a single tag exactly if the scan finds one tag and its token is
    the text. -/
theorem token_iff_scan_single {k : TagKind} {s c : List Char} :
    s = k.token c ∧ ']' ∉ c
      ↔ ∃ o, (Segments.scan k s).tags = [o] ∧ k.token o.content = s ∧ o.content = c := by
  constructor
  · intro h
    have hscan := scan_of_wholeTag? (wholeTag?_eq_some_iff.mpr h)
    refine ⟨⟨[], c⟩, ?_, h.1.symm, rfl⟩
    rw [hscan]
  · rintro ⟨o, htags, rfl, rfl⟩
    refine ⟨rfl, Segments.close_not_mem_content (k := k) (s := k.token o.content) _ ?_⟩
    rw [Segments.contents, htags]
    exact List.mem_cons_self ..

/-- What a whole tag gives does not depend on its kind otherwise than by the
    lookup. -/
theorem native?_eq_bind (r : Resolver) (k : TagKind) (s : List Char) :
    r.native? k s = (wholeTag? k s).bind fun c => (r.lookup k c).native? := by
  have hnone : ∀ c? : Option (List Char), (c?.bind fun _ => (none : Option Value)) = none := by
    intro c?
    cases c? <;> rfl
  cases k with
  | conf | ctxt => rfl
  | sha256 | base64 | now => exact (hnone _).symm

/-- A native value is looked up under the content of a single tag, and its text
    is the replacement of that tag. -/
theorem native?_eq_some {r : Resolver} {k : TagKind} {s : List Char} {v : Value}
    (h : r.native? k s = some v) :
    ∃ c, wholeTag? k s = some c ∧ r.lookup k c = v
      ∧ r.replacement k c = .ok (some v.render) := by
  rw [native?_eq_bind] at h
  obtain ⟨c, hc, hv⟩ := Option.bind_eq_some_iff.mp h
  have hl : r.lookup k c = v := Value.eq_of_native? hv
  refine ⟨c, hc, hl, ?_⟩
  cases k with
  | conf | ctxt =>
      rw [← hl]
      rfl
  | sha256 | base64 | now => cases hv

/-- The pass over a single tag writes its replacement. -/
theorem expand_of_wholeTag? {r : Resolver} {k : TagKind} {s c : List Char}
    (h : wholeTag? k s = some c) :
    r.expand k s = (r.replacement k c).map fun new? => new?.getD s := by
  obtain ⟨rfl, -⟩ := wholeTag?_eq_some_iff.mp h
  rw [expand_eq_foldl, Segments.contents, scan_of_wholeTag? h]
  show ([c].mapM (r.replacement k)).map _ = _
  rw [List.mapM_cons]
  cases hr : r.replacement k c with
  | error e => rfl
  | ok new? =>
      show Except.ok (replaceAll (k.token c) (r.written k c) (k.token c)) = _
      rw [replaceAll_self (k.token_ne_nil c), written_eq_getD hr]
      rfl

/-- The pass writes the text of the value that a whole tag gives. -/
theorem expand_of_native? {r : Resolver} {k : TagKind} {s : List Char} {v : Value}
    (h : r.native? k s = some v) : r.expand k s = .ok v.render := by
  obtain ⟨c, hc, -, hnew⟩ := native?_eq_some h
  rw [expand_of_wholeTag? hc, hnew]
  rfl

/-- **TWO RECOGNISERS, ONE READING**: a text is a single tag exactly if the scan
    finds one tag, all of the text, and both read the same content; a value is
    given at once exactly if it is looked up under that content and is neither
    text nor null; and what the pass would have written is the text of it. -/
theorem whole_tag_as_scanned (r : Resolver) (k : TagKind) (s : List Char) :
    (∀ c, s = k.opening ++ c ++ [']'] ∧ ']' ∉ c
      ↔ ∃ o, (Segments.scan k s).tags = [o] ∧ k.token o.content = s ∧ o.content = c)
    ∧ (∀ v, r.native? k s = some v
      ↔ ∃ o, (Segments.scan k s).tags = [o] ∧ k.token o.content = s
        ∧ r.lookup k o.content = v ∧ v ≠ .null ∧ ∀ t, v ≠ .string t)
    ∧ ∀ v, r.native? k s = some v → r.expand k s = .ok v.render := by
  refine ⟨fun c => token_iff_scan_single, fun v => ?_, fun v => expand_of_native?⟩
  rw [native?_eq_bind, Option.bind_eq_some_iff]
  constructor
  · rintro ⟨c, hc, hv⟩
    obtain ⟨o, htags, htoken, rfl⟩ :=
      token_iff_scan_single.mp (wholeTag?_eq_some_iff.mp hc)
    exact ⟨o, htags, htoken, Value.native?_eq_some_iff.mp hv⟩
  · rintro ⟨o, htags, htoken, hv⟩
    have hwhole := token_iff_scan_single.mpr ⟨o, htags, htoken, rfl⟩
    exact ⟨o.content, wholeTag?_eq_some_iff.mpr hwhole, Value.native?_eq_some_iff.mpr hv⟩

/-- A tag with an opening in its content is read from its front. -/
theorem whole_tag_as_scanned_nested :
    let r : Resolver :=
      { environment := .object [("[CONF:é", .array [.bool true])]
        scenario := Store.empty
        clock := ⟨0, 0, 0⟩ }
    let s := "[CONF:[CONF:é]".toList
    r.native? .conf s = some (.array [.bool true])
      ∧ r.expand .conf s = .ok "[true]".toList := by
  intro r s
  obtain ⟨-, hvalue, htext⟩ := whole_tag_as_scanned r .conf s
  have hnative : r.native? .conf s = some (.array [.bool true]) := by
    refine (hvalue _).mpr ⟨⟨[], "[CONF:é".toList⟩, by decide +kernel, by decide, rfl, ?_, ?_⟩
    · exact fun h => nomatch h
    · exact fun t h => nomatch h
  exact ⟨hnative, htext _ hnative⟩

end Resolver

end Fixture
