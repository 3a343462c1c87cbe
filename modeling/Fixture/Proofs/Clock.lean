import Fixture.Proofs.Indirection
import Fixture.Proofs.Shifts
import Fixture.Proofs.Written

/-! # Moments as numbers

    The seconds of a moment and the nanoseconds since then are one count of nanoseconds,
    and both numbers that a tag can show are floors of it, before 1970 as well as behind
    it.  A shift adds whole milliseconds to the count, so it commutes with the floors: the
    milliseconds that are shown are those of the clock and the shift, whatever the second
    had begun with.

    A tag that is a cell of its own is looked at from outside: it is left as it is, or
    comes to another text. -/

namespace Fixture

open Text

/-! ## Counting from 1970 -/

namespace Moment

variable {m later : Moment} {ms : Int}

/-- Nanoseconds since 1970. -/
def nanoseconds (m : Moment) : Int := m.seconds * 1000000000 + m.nanos

/-- The milliseconds are a floor, also of a count below zero. -/
theorem unixMilliseconds_eq_fdiv (m : Moment) :
    m.unixMilliseconds = m.nanoseconds.fdiv 1000000 := by
  rw [Int.fdiv_eq_ediv_of_nonneg _ (by decide), unixMilliseconds, nanoseconds]
  omega

/-- The seconds are a floor, unless the nanoseconds make up another second. -/
theorem seconds_eq_fdiv (hm : m.nanos < 1000000000) :
    m.seconds = m.unixMilliseconds.fdiv 1000 := by
  rw [Int.fdiv_eq_ediv_of_nonneg _ (by decide), unixMilliseconds]
  omega

/-- What carries over goes into the seconds. -/
theorem nanos_of_shift? (h : m.shift? ms = some later) : later.nanos < 1000000000 := by
  rw [shift?, Option.ite_none_right_eq_some] at h
  obtain ⟨-, h⟩ := h
  obtain rfl := Option.some.inj h
  dsimp only
  have hlt := Int.fmod_lt_of_pos (m.nanos + ms * 1000000) (show (0 : Int) < 1000000000 by decide)
  omega

/-- **A SHIFT** is so many milliseconds more, and nothing is lost in carrying. -/
theorem nanoseconds_of_shift? (h : m.shift? ms = some later) :
    later.nanoseconds = m.nanoseconds + ms * 1000000 := by
  rw [shift?, Option.ite_none_right_eq_some] at h
  obtain ⟨-, h⟩ := h
  obtain rfl := Option.some.inj h
  simp only [nanoseconds]
  generalize hcount : (m.nanos + ms * 1000000 : Int) = count
  have hnonneg := Int.fmod_nonneg_of_pos count (show (0 : Int) < 1000000000 by decide)
  have hdiv := Int.mul_fdiv_add_fmod count 1000000000
  rw [Int.toNat_of_nonneg hnonneg]
  omega

theorem unixMilliseconds_of_shift? (h : m.shift? ms = some later) :
    later.unixMilliseconds = m.unixMilliseconds + ms := by
  rw [unixMilliseconds_eq_fdiv, unixMilliseconds_eq_fdiv, nanoseconds_of_shift? h]
  exact Int.add_mul_fdiv_right _ _ (by decide)

end Moment

/-! ## Tags that are cells -/

/-- The tag of the moment some shift away, in a format. -/
def nowTag (shift : List Char) (format : String) : String :=
  String.ofList (TagKind.now.token (shift ++ ':' :: format.toList))

namespace Shift

variable {shift : List Char} {ms : Int}

/-- What a shift is written with. -/
theorem written_of_spells (h : Spells shift ms) {c : Char} (hc : c ∈ shift) :
    isBlank c = true ∨ c.isDigit = true ∨ c ∈ ['+', '-', 'm', 's', 'h', 'd'] := by
  cases h with
  | nothing hs => exact Or.inl (hs c hc)
  | @count before digits after n u hbefore hdigits hn hafter =>
      obtain ⟨d, ds, rfl, hd, hds⟩ := exists_cons_of_spells hdigits
      rcases List.mem_append.mp hc with hc | hc
      · rcases List.mem_append.mp hc with hc | hc
        · exact Or.inl (hbefore c hc)
        · rcases List.mem_append.mp hc with hc | hc
          · rcases List.mem_cons.mp hc with rfl | hc
            · rcases hd with rfl | rfl | hd
              · exact Or.inr (Or.inr (by decide))
              · exact Or.inr (Or.inr (by decide))
              · exact Or.inr (Or.inl hd)
            · exact Or.inr (Or.inl (hds c hc))
          · have hsymbol : u.symbol ⊆ ['+', '-', 'm', 's', 'h', 'd'] := by
              cases u <;> decide
            exact Or.inr (Or.inr (hsymbol hc))
      · exact Or.inl (hafter c hc)

/-- What ends a shift or a tag is not among it. -/
theorem not_mem_of_spells {x : Char} (hx : x ∈ [':', '[', ']']) (h : Spells shift ms) :
    x ∉ shift := by
  intro hmem
  have hwritten := written_of_spells h hmem
  revert hwritten
  simp only [List.mem_cons, List.not_mem_nil, or_false] at hx
  rcases hx with rfl | rfl | rfl <;> decide

end Shift

namespace Moment

variable {clock : Moment} {shift s : List Char} {format : String} {ms : Int}

/-- Which text a tag is replaced by. -/
theorem renderTag_eq_some_iff (h : Shift.Spells shift ms) :
    clock.renderTag (shift ++ ':' :: format.toList) = .ok (some s)
      ↔ Shift.IsDuration ms
        ∧ ∃ m, clock.shift? ms = some m ∧ renderTag.inFormat m format = some s := by
  have hcut : cutAt ':' (shift ++ ':' :: format.toList) = (shift, format.toList) := by
    rw [cutAt, cut?_singleton (Shift.not_mem_of_spells (by decide) h)]
  rw [renderTag_eq_map, shiftText, hcut]
  dsimp only
  rw [String.ofList_toList]
  obtain ⟨hread, hfail⟩ := Shift.read_of_spells h
  by_cases hduration : Shift.IsDuration ms
  · rw [hread hduration, Except.map, Except.ok.injEq, Option.bind_some,
      Option.bind_eq_some_iff]
    exact ⟨fun hm => ⟨hduration, hm⟩, fun hm => hm.2⟩
  · obtain ⟨e, he⟩ := hfail hduration
    rw [he]
    refine iff_of_false ?_ fun h => hduration h.1
    intro h
    cases h

end Moment

namespace Resolver

variable {r : Resolver} {shift : List Char} {format text : String} {ms : Int}

/-- The cell comes to a text other than itself. -/
def Renders (r : Resolver) (cell text : String) : Prop :=
  r.resolve cell = .ok (.string text) ∧ text ≠ cell

/-- A cell that is a tag of the moment is what the tag is replaced by. -/
theorem resolve_now {c : List Char} (ho : '[' ∉ c) (hc : ']' ∉ c) :
    r.resolve (String.ofList (TagKind.now.token c))
      = (r.clock.renderTag c).map fun new? =>
          .string (String.ofList (new?.getD (TagKind.now.token c))) := by
  have hwhole : wholeTag? .now (TagKind.now.token c) = some c :=
    wholeTag?_eq_some_iff.mpr ⟨rfl, hc⟩
  have hothers : ∀ k ∈ [TagKind.conf, .ctxt, .sha256, .base64],
      ¬ k.OccursIn (TagKind.now.token c) := by
    intro k hk
    refine TagKind.not_occursIn_of_inert (TagKind.inert_opening_token ?_ ho)
    rintro rfl
    exact absurd hk (by decide)
  have hliteral : ∀ x : Sentinel, (String.ofList (TagKind.now.token c)).toList ≠ x.literal := by
    rw [String.toList_ofList]
    exact token_ne_literal .now c
  rw [resolve_of_ne_literal hliteral, String.toList_ofList,
    show TagKind.order = [TagKind.conf, .ctxt, .sha256, .base64] ++ [.now] from rfl,
    resolveKinds_append_of_not_occursIn _ _ hothers, resolveKinds]
  show (r.expand .now (TagKind.now.token c) >>= r.resolveKinds []) = _
  rw [expand_of_wholeTag? hwhole, replacement]
  cases hnew : r.clock.renderTag c with
  | error e => rfl
  | ok new? =>
      -- neither the number nor the tag has a sentinel in it
      have hclean : ∀ x : Sentinel, ¬ x.literal <:+: new?.getD (TagKind.now.token c) := by
        intro x
        cases new? with
        | some new => exact Sentinel.no_literal_of_no_open (Moment.open_not_mem_renderTag hnew) x
        | none =>
            intro hin
            have hin' : x.literal <:+: TagKind.now.token c ++ [] := by
              rw [List.append_nil]
              exact hin
            exact x.literal_ne_nil
              (List.infix_nil.mp ((Sentinel.inert_token ho).of_infix_append hin'))
      show Except.ok (Value.string (String.ofList (Sentinel.inlineAll _))) = _
      rw [Sentinel.inlineAll_of_no_literal hclean]
      rfl

/-- **WHEN A TAG RENDERS**: its shift is a duration, and leads to a moment that has a text
    in the format. -/
theorem renders_nowTag_iff (h : Shift.Spells shift ms) (hformat : '[' ∉ format.toList)
    (hformat' : ']' ∉ format.toList) :
    r.Renders (nowTag shift format) text
      ↔ Shift.IsDuration ms ∧ ∃ m, r.clock.shift? ms = some m
        ∧ Moment.renderTag.inFormat m format = some text.toList := by
  have hcontent : ∀ x : Char, x ∈ ['[', ']'] → x ∉ format.toList →
      x ∉ shift ++ ':' :: format.toList := by
    intro x hx hnot hmem
    rcases List.mem_append.mp hmem with hmem | hmem
    · exact Shift.not_mem_of_spells (List.mem_cons_of_mem _ hx) h hmem
    · rcases List.mem_cons.mp hmem with rfl | hmem
      · exact absurd hx (by decide)
      · exact hnot hmem
  rw [← Moment.renderTag_eq_some_iff h, Renders, nowTag,
    resolve_now (hcontent _ (by decide) hformat) (hcontent _ (by decide) hformat')]
  cases hnew : r.clock.renderTag (shift ++ ':' :: format.toList) with
  | error e => exact iff_of_false (fun h => nomatch h.1) (fun h => nomatch h)
  | ok new? =>
      cases new? with
      | none =>
          refine iff_of_false ?_ (fun h => nomatch h)
          rintro ⟨htext, hne⟩
          exact hne (Value.string.inj (Except.ok.inj htext)).symm
      | some new =>
          constructor
          · rintro ⟨htext, -⟩
            rw [← Value.string.inj (Except.ok.inj htext)]
            show Except.ok (some new) = .ok (some (String.ofList new).toList)
            rw [String.toList_ofList]
          · intro htext
            obtain rfl := Option.some.inj (Except.ok.inj htext)
            refine ⟨congrArg (Except.ok ∘ Value.string) text.ofList_toList, ?_⟩
            intro heq
            refine Moment.open_not_mem_renderTag hnew ?_
            rw [heq, String.toList_ofList]
            exact List.mem_append_left _ (List.mem_append_left _ (by decide))

/-- A format that shows a number of the moment shows the number of the shifted clock. -/
theorem renders_number_iff {number : Moment → Int} (h : Shift.Spells shift ms)
    (hformat : '[' ∉ format.toList) (hformat' : ']' ∉ format.toList)
    (hnumber : ∀ m, Moment.renderTag.inFormat m format = some (toString (number m)).toList) :
    r.Renders (nowTag shift format) text ↔ Shift.IsDuration ms
      ∧ ∃ m, r.clock.shift? ms = some m ∧ text = toString (number m) := by
  rw [renders_nowTag_iff h hformat hformat']
  refine and_congr_right fun _ => exists_congr fun m => and_congr_right fun _ => ?_
  rw [hnumber, Option.some.injEq, String.toList_inj, eq_comm]

/-- **THE CLOCK IS SHIFTED EXACTLY**: the milliseconds that a tag shows are those of the tag
    without a shift and the shift, which for a count of a unit is the count times the unit;
    the tag without a shift shows the floor of the nanoseconds of the clock; and the seconds
    that are shown for a shift are the floor of the milliseconds that are shown for it. -/
theorem now_exact (r : Resolver) {shift : List Char} {ms : Int} (h : Shift.Spells shift ms) :
    (∀ later now, r.Renders (nowTag shift "unixmilli") later →
      r.Renders (nowTag [] "unixmilli") now →
      ∃ a b : Int, later = toString a ∧ now = toString b ∧ a = b + ms
        ∧ b = r.clock.nanoseconds.fdiv 1000000)
    ∧ ((∃ seconds, r.Renders (nowTag shift "unix") seconds)
      ↔ ∃ milliseconds, r.Renders (nowTag shift "unixmilli") milliseconds)
    ∧ ∀ seconds milliseconds, r.Renders (nowTag shift "unix") seconds →
      r.Renders (nowTag shift "unixmilli") milliseconds →
      ∃ a : Int, milliseconds = toString a ∧ seconds = toString (a.fdiv 1000) := by
  have hmilli : ∀ {shift ms}, Shift.Spells shift ms → ∀ text,
      r.Renders (nowTag shift "unixmilli") text ↔ Shift.IsDuration ms
        ∧ ∃ m, r.clock.shift? ms = some m ∧ text = toString m.unixMilliseconds :=
    fun h text => renders_number_iff h (by decide) (by decide) fun _ => rfl
  have hunix : ∀ text, r.Renders (nowTag shift "unix") text ↔ Shift.IsDuration ms
      ∧ ∃ m, r.clock.shift? ms = some m ∧ text = toString m.seconds :=
    fun text => renders_number_iff h (by decide) (by decide) fun _ => rfl
  refine ⟨?_, ?_, ?_⟩
  · intro later now hlater hnow
    obtain ⟨-, m, hm, rfl⟩ := (hmilli h later).mp hlater
    obtain ⟨-, m₀, hm₀, rfl⟩ := (hmilli (.nothing (by simp)) now).mp hnow
    have hclock : m₀.unixMilliseconds = r.clock.unixMilliseconds := by
      rw [Moment.unixMilliseconds_of_shift? hm₀, Int.add_zero]
    refine ⟨_, _, rfl, rfl, ?_, ?_⟩
    · rw [Moment.unixMilliseconds_of_shift? hm, hclock]
    · rw [hclock, Moment.unixMilliseconds_eq_fdiv]
  · simp only [hunix, hmilli h]
    constructor
    · rintro ⟨-, hduration, m, hm, -⟩
      exact ⟨_, hduration, m, hm, rfl⟩
    · rintro ⟨-, hduration, m, hm, -⟩
      exact ⟨_, hduration, m, hm, rfl⟩
  · intro seconds milliseconds hseconds hmilliseconds
    obtain ⟨-, m, hm, rfl⟩ := (hunix seconds).mp hseconds
    obtain ⟨-, m', hm', rfl⟩ := (hmilli h milliseconds).mp hmilliseconds
    obtain rfl := Option.some.inj (hm.symm.trans hm')
    exact ⟨_, rfl, by rw [← Moment.seconds_eq_fdiv (Moment.nanos_of_shift? hm)]⟩

/-- A millisecond carries a clock over the last second but one before 1970. -/
theorem now_exact_carried :
    let r : Resolver := ⟨.null, Store.empty, ⟨-2, 999999999, 3600⟩⟩
    let shift := "+1ms".toList
    Shift.Spells shift 1
      ∧ r.Renders (nowTag shift "unixmilli") "-1000"
      ∧ r.Renders (nowTag [] "unixmilli") "-1001"
      ∧ r.Renders (nowTag shift "unix") "-1"
      ∧ (∃ a b : Int, "-1000" = toString a ∧ "-1001" = toString b ∧ a = b + 1
        ∧ b = r.clock.nanoseconds.fdiv 1000000)
      ∧ ∃ a : Int, "-1000" = toString a ∧ "-1" = toString (a.fdiv 1000) := by
  intro r shift
  have hone : IntType.i64.Spells ['+', '1'] 1 :=
    (IntType.readText_eq_ok_iff rfl).mp (by rfl) |>.1
  have hshift : Shift.Spells shift 1 :=
    @Shift.Spells.count [] ['+', '1'] [] 1 .milliseconds (by simp) hone (by decide) (by simp)
  have hblank : Shift.Spells [] 0 := .nothing (by simp)
  have hlater : r.Renders (nowTag shift "unixmilli") "-1000" :=
    (renders_nowTag_iff hshift (by decide) (by decide)).mpr
      ⟨by decide, ⟨-1, 999999, 3600⟩, by decide +kernel, by decide +kernel⟩
  have hnow : r.Renders (nowTag [] "unixmilli") "-1001" :=
    (renders_nowTag_iff hblank (by decide) (by decide)).mpr
      ⟨by decide, ⟨-2, 999999999, 3600⟩, by decide +kernel, by decide +kernel⟩
  have hseconds : r.Renders (nowTag shift "unix") "-1" :=
    (renders_nowTag_iff hshift (by decide) (by decide)).mpr
      ⟨by decide, ⟨-1, 999999, 3600⟩, by decide +kernel, by decide +kernel⟩
  obtain ⟨hexact, -, hfloor⟩ := now_exact r hshift
  exact ⟨hshift, hlater, hnow, hseconds, hexact _ _ hlater hnow, hfloor _ _ hseconds hlater⟩

end Resolver

end Fixture
