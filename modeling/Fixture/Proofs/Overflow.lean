import Fixture.Proofs.WholeTag

/-! # When a resolution fails

    Only shifts of time can make a resolution fail, and only in one way: the
    count is a 64-bit number, the unit is minutes, hours or days, and the count
    comes to more seconds than 64 bits hold.  Such a tag fails the cell before
    its format is looked at.  Every other tag that names no moment stays as it
    is. -/

namespace Fixture

open Text

/-- A success is no failure. -/
private theorem not_error_ok {ε α : Type} (a : α) :
    ¬ ∃ e : ε, (Except.ok a : Except ε α) = .error e := by
  rintro ⟨e, he⟩
  cases he

/-- What cannot fail adds no failure. -/
private theorem error_bind_iff {ε α β : Type} {x : Except ε α}
    {f : α → Except ε β} (h : ∀ a, ∃ b, f a = .ok b) :
    (∃ e, (x >>= f) = .error e) ↔ ∃ e, x = .error e := by
  cases x with
  | error e => exact ⟨fun _ => ⟨e, rfl⟩, fun _ => ⟨e, rfl⟩⟩
  | ok a =>
      obtain ⟨b, hb⟩ := h a
      show (∃ e, f a = .error e) ↔ _
      rw [hb]
      exact iff_of_false (not_error_ok b) (not_error_ok a)

namespace Shift

/-! ## Reading a shift -/

/-- The text is a 64-bit count of a unit that comes to more seconds than 64
    bits hold. -/
def Overflowing (text : List Char) : Prop :=
  ∃ count u, IntType.i64.readText (amount (trim text)).1 = .ok count
    ∧ TimeUnit.ofText? (amount (trim text)).2 = some u ∧ u.Overflows count

/-- Only a shift that overflows cannot be read. -/
theorem read_error_iff {text : List Char} :
    (∃ e, read text = .error e) ↔ Overflowing text := by
  rw [read, Overflowing]
  by_cases hs : trim text = []
  · -- blank text is no shift, and no count either
    rw [if_pos hs, hs]
    refine iff_of_false (not_error_ok _) ?_
    rintro ⟨count, u, hcount, -, -⟩
    cases hcount
  · rw [if_neg hs]
    obtain ⟨digits, suffix⟩ := amount (trim text)
    dsimp only
    cases IntType.i64.readText digits with
    | error fault =>
        refine iff_of_false (not_error_ok _) ?_
        rintro ⟨count, u, hcount, -, -⟩
        cases hcount
    | ok count =>
        cases TimeUnit.ofText? suffix with
        | none =>
            refine iff_of_false (not_error_ok _) ?_
            rintro ⟨count', u, -, hu, -⟩
            cases hu
        | some u =>
            show (∃ e, (if u.Overflows count then Except.error (Overflow.mk count u)
                else .ok (some (count * u.inMilliseconds))) = .error e) ↔ _
            by_cases ho : u.Overflows count
            · rw [if_pos ho]
              exact ⟨fun _ => ⟨count, u, rfl, rfl, ho⟩, fun _ => ⟨⟨count, u⟩, rfl⟩⟩
            · rw [if_neg ho]
              refine iff_of_false (not_error_ok _) ?_
              rintro ⟨count', u', hcount, hu, ho'⟩
              obtain rfl := Except.ok.inj hcount
              obtain rfl := Option.some.inj hu
              exact ho ho'

end Shift

/-! ## Failing tags -/

/-- The shift that the content of a `NOW` tag begins with. -/
def Moment.shiftText (content : List Char) : List Char := (cutAt ':' content).1

/-- The moment of a tag: its shift is read, applied and written. -/
theorem Moment.renderTag_eq_map (clock : Moment) (content : List Char) :
    clock.renderTag content
      = (Shift.read (shiftText content)).map fun milliseconds? =>
          (milliseconds?.bind clock.shift?).bind fun m =>
            renderTag.inFormat m (String.ofList (cutAt ':' content).2) := by
  rw [renderTag, shiftText]
  obtain ⟨shift, format⟩ := cutAt ':' content
  dsimp only
  cases Shift.read shift with
  | error e => rfl
  | ok milliseconds? =>
      cases milliseconds? with
      | none => rfl
      | some milliseconds =>
          dsimp only [bind, Except.bind, Except.map, Option.bind]
          cases clock.shift? milliseconds <;> rfl

/-- Such a shift is what a tag of the moment fails by. -/
theorem Moment.renderTag_error_iff {clock : Moment} {content : List Char} :
    (∃ e, clock.renderTag content = .error e)
      ↔ Shift.Overflowing (shiftText content) := by
  rw [renderTag_eq_map, ← Shift.read_error_iff]
  exact error_bind_iff (fun milliseconds? => ⟨_, rfl⟩)

namespace Resolver

theorem replacement_error_iff {r : Resolver} {k : TagKind} {c : List Char} :
    (∃ e, r.replacement k c = .error e)
      ↔ k = .now ∧ Shift.Overflowing (Moment.shiftText c) := by
  cases k with
  | now =>
      rw [replacement, Moment.renderTag_error_iff]
      exact ⟨fun h => ⟨rfl, h⟩, fun h => h.2⟩
  | conf | ctxt | sha256 | base64 =>
      refine iff_of_false (not_error_ok _) ?_
      rintro ⟨hk, -⟩
      cases hk

/-- A tag without a moment stays: its shift is no shift, or leads out of the
    calendar. -/
theorem replacement_now_eq_none {r : Resolver} {c : List Char}
    (hcount : ¬ Shift.Overflowing (Moment.shiftText c))
    (hnone : ∀ ms m, Shift.read (Moment.shiftText c) = .ok (some ms) →
      r.clock.shift? ms ≠ some m) :
    r.replacement .now c = .ok none := by
  rw [← Shift.read_error_iff] at hcount
  rw [replacement, Moment.renderTag_eq_map]
  cases hread : Shift.read (Moment.shiftText c) with
  | error e => exact absurd ⟨e, hread⟩ hcount
  | ok milliseconds? =>
      have hm : milliseconds?.bind r.clock.shift? = none := by
        rw [Option.bind_eq_none_iff]
        rintro ms rfl
        exact Option.eq_none_iff_forall_ne_some.mpr (fun m => hnone ms m hread)
      rw [Except.map, hm, Option.bind_none]

/-! ## Failing cells -/

/-- The text behind the passes of some kinds; nothing if a lookup tag gives the
    cell its value on the way. -/
def behind? (r : Resolver) : List TagKind → List Char → Option (List Char)
  | [], s => some s
  | k :: ks, s =>
      match r.native? k s with
      | some _ => none
      | none =>
          match r.expand k s with
          | .ok t => r.behind? ks t
          | .error _ => none

/-- **THE PASSES BEFORE**: they cannot fail, so the failure of all passes is one
    of those to come, over the text that they are given. -/
theorem resolveKinds_append_error_iff {r : Resolver} {ks later : List TagKind}
    {s : List Char} (hks : .now ∉ ks) :
    (∃ e, r.resolveKinds (ks ++ later) s = .error e)
      ↔ ∃ t, r.behind? ks s = some t ∧ ∃ e, r.resolveKinds later t = .error e := by
  induction ks generalizing s with
  | nil =>
      constructor
      · intro h
        exact ⟨s, rfl, h⟩
      · rintro ⟨t, ht, h⟩
        obtain rfl := Option.some.inj ht
        exact h
  | cons k ks ih =>
      have hk : k ≠ .now := fun h => hks (h ▸ List.mem_cons_self ..)
      have hks' : .now ∉ ks := fun h => hks (List.mem_cons_of_mem k h)
      rw [List.cons_append, resolveKinds, behind?]
      cases r.native? k s with
      | some v =>
          refine iff_of_false (not_error_ok v) ?_
          rintro ⟨t, ht, -⟩
          cases ht
      | none =>
          cases hx : r.expand k s with
          | error e =>
              obtain ⟨c, -, hc⟩ := expand_error_iff.mp ⟨e, hx⟩
              exact absurd (replacement_error_iff.mp hc).1 hk
          | ok t => exact ih hks'

/-- The last pass fails with its tags. -/
theorem resolveKinds_now_error_iff {r : Resolver} {t : List Char} :
    (∃ e, r.resolveKinds [.now] t = .error e)
      ↔ ∃ c ∈ (Segments.scan .now t).contents,
          Shift.Overflowing (Moment.shiftText c) := by
  have hc : ∀ c, Shift.Overflowing (Moment.shiftText c)
      ↔ ∃ e, r.replacement .now c = .error e := by
    intro c
    rw [replacement_error_iff]
    exact ⟨fun h => ⟨rfl, h⟩, fun h => h.2⟩
  simp only [hc]
  rw [← expand_error_iff]
  exact error_bind_iff (fun u => ⟨_, rfl⟩)

/-- **WHEN A CELL FAILS**: it is no sentinel, no lookup tag gives it a value,
    and the text that the last pass is given has a `NOW` tag whose shift
    overflows.  A tag that does not overflow and names no moment stays. -/
theorem resolve_error_iff (r : Resolver) (cell : String) :
    ((∃ e, r.resolve cell = .error e)
      ↔ Sentinel.ofText? cell.toList = none
        ∧ ∃ t, r.behind? [.conf, .ctxt, .sha256, .base64] cell.toList = some t
          ∧ ∃ c ∈ (Segments.scan .now t).contents,
              Shift.Overflowing (Moment.shiftText c))
    ∧ ((∃ e, r.resolveText cell = .error e) ↔ ∃ e, r.resolve cell = .error e)
    ∧ ∀ c, ¬ Shift.Overflowing (Moment.shiftText c) →
        (∀ ms m, Shift.read (Moment.shiftText c) = .ok (some ms) →
          r.clock.shift? ms ≠ some m) →
        r.replacement .now c = .ok none := by
  refine ⟨?_, ?_, fun c => replacement_now_eq_none⟩
  · rw [resolve]
    cases Sentinel.ofText? cell.toList with
    | some sentinel =>
        refine iff_of_false (not_error_ok sentinel.value) ?_
        rintro ⟨hs, -⟩
        cases hs
    | none =>
        have hks : TagKind.now ∉ [TagKind.conf, .ctxt, .sha256, .base64] := by decide
        have h : (∃ e, r.resolveKinds TagKind.order cell.toList = .error e) ↔ _ :=
          resolveKinds_append_error_iff hks
        simp only [resolveKinds_now_error_iff] at h
        exact ⟨fun he => ⟨rfl, h.mp he⟩, fun ht => h.mpr ht.2⟩
  · -- a value always has a text
    exact error_bind_iff (fun v => ⟨v.text, rfl⟩)

/-- The greatest count of hours fails its cell; the same count of seconds leads
    out of the calendar, and its tag stays. -/
theorem resolve_error_iff_greatest_count :
    let r : Resolver := ⟨.null, Store.empty, ⟨1709294400, 0, 0⟩⟩
    let seconds := "9223372036854775807s:unix".toList
    (∃ e, r.resolve "[NOW:9223372036854775807h:unix]" = .error e)
      ∧ ¬ Shift.Overflowing (Moment.shiftText seconds)
      ∧ (∀ ms m, Shift.read (Moment.shiftText seconds) = .ok (some ms) →
        r.clock.shift? ms ≠ some m)
      ∧ r.replacement .now seconds = .ok none := by
  intro r seconds
  have hread : Shift.read (Moment.shiftText seconds) = .ok (some 9223372036854775807000) := by
    rfl
  have hcount : ¬ Shift.Overflowing (Moment.shiftText seconds) := by
    rw [← Shift.read_error_iff, hread]
    exact not_error_ok _
  have hnone : ∀ ms m, Shift.read (Moment.shiftText seconds) = .ok (some ms) →
      r.clock.shift? ms ≠ some m := by
    intro ms m h
    rw [hread] at h
    obtain rfl := Option.some.inj (Except.ok.inj h)
    rw [show r.clock.shift? 9223372036854775807000 = none by decide +kernel]
    exact Option.some_ne_none m ∘ Eq.symm
  have hhours : Shift.Overflowing
      (Moment.shiftText "9223372036854775807h:unix".toList) :=
    ⟨9223372036854775807, .hours, by rfl, by decide +kernel, by decide +kernel⟩
  have iff := resolve_error_iff r "[NOW:9223372036854775807h:unix]"
  refine ⟨iff.1.mpr ⟨by decide +kernel, "[NOW:9223372036854775807h:unix]".toList,
    by decide +kernel, "9223372036854775807h:unix".toList, by decide +kernel, hhours⟩,
    hcount, hnone, iff.2.2 seconds hcount hnone⟩

end Resolver

end Fixture
