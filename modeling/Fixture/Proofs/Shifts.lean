import Mathlib.Data.List.DropRight
import Mathlib.Tactic.SplitIfs
import Fixture.Time.Shift
import Fixture.Proofs.Digits

/-! # Shifts of time as texts

    White space at both ends aside, a shift is nothing at all, or a whole number of 64
    bits with the symbol of a unit right behind its last digit.  The number ends at the
    first character that is no digit, a sign in front excepted, and what is left has to
    be a symbol as a whole, so that one symbol is not taken for the beginning of another.

    What a text spells is read if it is a duration, and any other text is malformed.  The
    one way to fail is a count of minutes, hours or days that no duration holds. -/

namespace Fixture

/-! ## Texts between blanks -/

namespace Text

variable {s before core after : List Char}

theorem trim_eq_rdropWhile (s : List Char) :
    trim s = (s.dropWhile isBlank).rdropWhile isBlank := rfl

/-- Nothing is left of blanks, and of nothing else. -/
theorem trim_eq_nil_iff : trim s = [] ↔ ∀ c ∈ s, isBlank c = true := by
  rw [trim_eq_rdropWhile, List.rdropWhile_eq_nil_iff]
  constructor
  · intro h c hc
    rw [← List.takeWhile_append_dropWhile (p := isBlank) (l := s)] at hc
    rcases List.mem_append.mp hc with hc | hc
    · exact List.mem_takeWhile_imp hc
    · exact h c hc
  · intro h c hc
    exact h c ((List.dropWhile_sublist isBlank).subset hc)

/-- What is cut off is white space. -/
theorem exists_append_trim (s : List Char) :
    ∃ before after, (∀ c ∈ before, isBlank c = true) ∧ (∀ c ∈ after, isBlank c = true)
      ∧ s = before ++ trim s ++ after := by
  refine ⟨s.takeWhile isBlank, (s.dropWhile isBlank).rtakeWhile isBlank,
    fun c hc => List.mem_takeWhile_imp hc, fun c hc => List.mem_rtakeWhile_imp hc, ?_⟩
  rw [List.append_assoc, trim_eq_rdropWhile, List.rdropWhile_append_rtakeWhile,
    List.takeWhile_append_dropWhile]

/-- All white space around a text is cut off. -/
theorem trim_append (hbefore : ∀ c ∈ before, isBlank c = true)
    (hcore : ∀ c ∈ core, isBlank c = false) (hafter : ∀ c ∈ after, isBlank c = true) :
    trim (before ++ core ++ after) = core := by
  have hend : (core ++ after).rdropWhile isBlank = core := by
    have hafter' : ∀ c ∈ after.reverse, isBlank c = true :=
      fun c hc => hafter c (List.mem_reverse.mp hc)
    rw [List.rdropWhile, List.reverse_append, List.dropWhile_append_of_pos hafter']
    refine List.rdropWhile_eq_self_iff.mpr fun hne => ?_
    rw [hcore _ (List.getLast_mem hne)]
    exact Bool.false_ne_true
  rw [trim_eq_rdropWhile, List.append_assoc, List.dropWhile_append_of_pos hbefore]
  cases core with
  | nil => exact trim_eq_nil_iff.mpr hafter
  | cons c r =>
      rw [List.cons_append, List.dropWhile_cons_of_neg, ← List.cons_append, hend]
      rw [hcore c (List.mem_cons_self ..)]
      exact Bool.false_ne_true

theorem isBlank_of_isDigit {c : Char} (h : c.isDigit = true) : isBlank c = false := by
  have hrange : 48 ≤ c.toNat ∧ c.toNat ≤ 57 := by
    rw [Char.isDigit, Bool.and_eq_true, decide_eq_true_iff, decide_eq_true_iff] at h
    exact h
  simp only [isBlank, Bool.or_eq_false_iff, Bool.and_eq_false_iff, decide_eq_false_iff_not]
  omega

end Text

/-! ## Units -/

namespace TimeUnit

variable {u : TimeUnit} {n : Int}

/-- What a unit is written as. -/
def symbol : TimeUnit → List Char
  | milliseconds => ['m', 's']
  | seconds => ['s']
  | minutes => ['m']
  | hours => ['h']
  | days => ['d']

/-- A unit is read from its symbol alone. -/
theorem ofText?_eq_some_iff {s : List Char} : ofText? s = some u ↔ s = u.symbol := by
  constructor
  · intro h
    unfold ofText? at h
    split_ifs at h with hs hs hs hs hs
    all_goals
      obtain rfl := Option.some.inj h
      exact hs
  · rintro rfl
    cases u <;> rfl

/-- A symbol begins with no digit. -/
theorem symbol_eq_cons (u : TimeUnit) : ∃ c r, u.symbol = c :: r ∧ c.isDigit = false := by
  cases u <;> exact ⟨_, _, rfl, rfl⟩

theorem isBlank_of_mem_symbol {c : Char} (h : c ∈ u.symbol) : Text.isBlank c = false := by
  cases u <;> simp only [symbol, List.mem_cons, List.not_mem_nil, or_false] at h
  case milliseconds => rcases h with rfl | rfl <;> rfl
  all_goals
    subst h
    rfl

end TimeUnit

/-! ## Durations -/

namespace Shift

variable {digits text : List Char} {n ms : Int} {u : TimeUnit}

/-- The milliseconds of a duration: seconds that 64 bits hold, and less than another one
    to either side. -/
def IsDuration (ms : Int) : Prop :=
  1000 * IntType.i64.least - 1000 < ms ∧ ms < 1000 * IntType.i64.greatest + 1000

instance (ms : Int) : Decidable (IsDuration ms) := by
  unfold IsDuration
  infer_instance

/-- **THE COUNT OF A UNIT** overflows exactly if no duration is as long. -/
theorem overflows_iff (hn : IntType.i64.least ≤ n ∧ n ≤ IntType.i64.greatest) :
    u.Overflows n ↔ ¬ IsDuration (n * u.inMilliseconds) := by
  have hgreatest : IntType.i64.greatest = 9223372036854775807 := rfl
  rw [IntType.least_i64, hgreatest] at hn
  rw [IsDuration, IntType.least_i64, hgreatest]
  cases u <;> simp only [TimeUnit.Overflows, TimeUnit.Overflows.InSeconds,
    TimeUnit.inMilliseconds, IntType.least_i64, hgreatest, false_iff, not_not] <;> omega

/-! ## What is read -/

/-- What a text comes to as a shift, in milliseconds. -/
inductive Spells : List Char → Int → Prop
  | nothing {s : List Char} (hs : ∀ c ∈ s, Text.isBlank c = true) : Spells s 0
  | count {before digits after : List Char} {n : Int} (u : TimeUnit)
      (hbefore : ∀ c ∈ before, Text.isBlank c = true) (hdigits : IntType.i64.Spells digits n)
      (hn : IntType.i64.least ≤ n ∧ n ≤ IntType.i64.greatest)
      (hafter : ∀ c ∈ after, Text.isBlank c = true) :
      Spells (before ++ (digits ++ u.symbol) ++ after) (n * u.inMilliseconds)

/-- A number is a sign or a digit, and digits behind it. -/
theorem exists_cons_of_spells (h : IntType.i64.Spells digits n) :
    ∃ c ds, digits = c :: ds ∧ (c = '+' ∨ c = '-' ∨ c.isDigit = true)
      ∧ ∀ d ∈ ds, d.isDigit = true := by
  obtain ⟨ds, hne, hds, ⟨rfl, -⟩ | ⟨-, rfl, -⟩ | ⟨-, rfl, -⟩⟩ := h
  · obtain ⟨c, ds, rfl⟩ := List.exists_cons_of_ne_nil hne
    obtain ⟨hc, hds⟩ := List.forall_mem_cons.mp hds
    exact ⟨c, ds, rfl, Or.inr (Or.inr hc), hds⟩
  · exact ⟨'+', ds, rfl, Or.inl rfl, hds⟩
  · exact ⟨'-', ds, rfl, Or.inr (Or.inl rfl), hds⟩

/-- No number has white space in it. -/
theorem isBlank_of_spells (h : IntType.i64.Spells digits n) :
    ∀ c ∈ digits, Text.isBlank c = false := by
  obtain ⟨c, ds, rfl, hc, hds⟩ := exists_cons_of_spells h
  refine List.forall_mem_cons.mpr ⟨?_, fun d hd => Text.isBlank_of_isDigit (hds d hd)⟩
  obtain rfl | rfl | hc := hc
  · decide
  · decide
  · exact Text.isBlank_of_isDigit hc

/-- Nothing is lost between the amount and the rest. -/
theorem amount_append (s : List Char) : (amount s).1 ++ (amount s).2 = s := by
  cases s with
  | nil => rfl
  | cons c r =>
      rw [amount]
      split
      · exact congrArg (c :: ·) List.takeWhile_append_dropWhile
      · rfl

/-- The amount is a number up to the first character behind it that is no digit. -/
theorem amount_of_spells (h : IntType.i64.Spells digits n) {c : Char} (hc : c.isDigit = false)
    (r : List Char) : amount (digits ++ c :: r) = (digits, c :: r) := by
  obtain ⟨d, ds, rfl, hd, hds⟩ := exists_cons_of_spells h
  have hstop : ¬ c.isDigit = true := by rw [hc]; exact Bool.false_ne_true
  rw [List.cons_append, amount, if_pos hd, List.takeWhile_append_of_pos hds,
    List.takeWhile_cons_of_neg hstop, List.dropWhile_append_of_pos hds,
    List.dropWhile_cons_of_neg hstop, List.append_nil]

/-- A count between blanks is read, or overflows its unit. -/
theorem read_count {before after : List Char} (u : TimeUnit)
    (hbefore : ∀ c ∈ before, Text.isBlank c = true) (hdigits : IntType.i64.Spells digits n)
    (hn : IntType.i64.least ≤ n ∧ n ≤ IntType.i64.greatest)
    (hafter : ∀ c ∈ after, Text.isBlank c = true) :
    read (before ++ (digits ++ u.symbol) ++ after)
      = if u.Overflows n then .error ⟨n, u⟩ else .ok (some (n * u.inMilliseconds)) := by
  obtain ⟨c, r, hsymbol, hc⟩ := u.symbol_eq_cons
  have hcore : ∀ c ∈ digits ++ u.symbol, Text.isBlank c = false := by
    intro c hc
    rcases List.mem_append.mp hc with hc | hc
    · exact isBlank_of_spells hdigits c hc
    · exact TimeUnit.isBlank_of_mem_symbol hc
  have hne : digits ++ u.symbol ≠ [] := by
    rw [hsymbol]
    exact List.append_ne_nil_of_right_ne_nil _ (List.cons_ne_nil c r)
  have hamount : amount (digits ++ u.symbol) = (digits, u.symbol) := by
    rw [hsymbol]
    exact amount_of_spells hdigits hc r
  rw [read, Text.trim_append hbefore hcore hafter, if_neg hne, hamount]
  dsimp only
  rw [(IntType.readText_eq_ok_iff rfl).mpr ⟨hdigits, hn⟩, TimeUnit.ofText?_eq_some_iff.mpr rfl]

/-- **A TEXT THAT SPELLS A SHIFT** is read as it if it is a duration, and fails if it is
    none. -/
theorem read_of_spells (h : Spells text ms) :
    (IsDuration ms → read text = .ok (some ms))
    ∧ (¬ IsDuration ms → ∃ e, read text = .error e) := by
  cases h with
  | nothing hs =>
      have hread : read text = .ok (some 0) := by
        rw [read, Text.trim_eq_nil_iff.mpr hs]
        rfl
      exact ⟨fun _ => hread, fun hzero => absurd (by decide) hzero⟩
  | @count before digits after n u hbefore hdigits hn hafter =>
      rw [read_count u hbefore hdigits hn hafter]
      refine ⟨fun hms => if_neg ?_, fun hms => ⟨⟨n, u⟩, if_pos ?_⟩⟩
      · rwa [overflows_iff hn, not_not]
      · rwa [overflows_iff hn]

/-- What is not refused as malformed spells a shift. -/
theorem exists_spells_of_read (h : read text ≠ .ok none) : ∃ ms, Spells text ms := by
  obtain ⟨before, after, hbefore, hafter, htext⟩ := Text.exists_append_trim text
  rw [read] at h
  by_cases hs : Text.trim text = []
  · exact ⟨0, .nothing (Text.trim_eq_nil_iff.mp hs)⟩
  · rw [if_neg hs] at h
    have happend := amount_append (Text.trim text)
    generalize amount (Text.trim text) = parts at h happend
    obtain ⟨digits, symbol⟩ := parts
    dsimp only at h happend
    cases hread : IntType.i64.readText digits with
    | error fault => exact absurd (by rw [hread]) h
    | ok n =>
        cases hsymbol : TimeUnit.ofText? symbol with
        | none => exact absurd (by rw [hread, hsymbol]) h
        | some u =>
            obtain ⟨hdigits, hn⟩ := (IntType.readText_eq_ok_iff rfl).mp hread
            rw [← happend, TimeUnit.ofText?_eq_some_iff.mp hsymbol] at htext
            rw [htext]
            exact ⟨_, .count u hbefore hdigits hn hafter⟩

/-- **WHICH TEXTS ARE SHIFTS**: blank text is no shift at all, and a number of 64 bits with
    a symbol behind it is as many of the units, with white space around either of them.
    What is a duration is read, what is none fails, and any other text is malformed. -/
theorem read_shift (text : List Char) :
    (∀ ms, read text = .ok (some ms) ↔ Spells text ms ∧ IsDuration ms)
    ∧ (read text = .ok none ↔ ¬ ∃ ms, Spells text ms)
    ∧ ((∃ e, read text = .error e) ↔ ∃ ms, Spells text ms ∧ ¬ IsDuration ms) := by
  -- whatever the text spells decides how the reading ends
  have hends : ∀ ms, Spells text ms →
      (IsDuration ms ∧ read text = .ok (some ms))
        ∨ (¬ IsDuration ms ∧ ∃ e, read text = .error e) := by
    intro ms hms
    obtain ⟨hread, hfail⟩ := read_of_spells hms
    by_cases hduration : IsDuration ms
    · exact Or.inl ⟨hduration, hread hduration⟩
    · exact Or.inr ⟨hduration, hfail hduration⟩
  refine ⟨fun ms => ⟨fun h => ?_, fun h => (read_of_spells h.1).1 h.2⟩,
    ⟨?_, not_imp_comm.mp exists_spells_of_read⟩,
    ⟨?_, fun ⟨ms, hms, hduration⟩ => (read_of_spells hms).2 hduration⟩⟩
  · obtain ⟨ms', hms'⟩ := exists_spells_of_read (by rw [h]; exact nofun)
    obtain ⟨hduration, hread⟩ | ⟨-, e, he⟩ := hends ms' hms'
    · obtain rfl := Option.some.inj (Except.ok.inj (hread.symm.trans h))
      exact ⟨hms', hduration⟩
    · cases h.symm.trans he
  · rintro h ⟨ms, hms⟩
    obtain ⟨-, hread⟩ | ⟨-, e, he⟩ := hends ms hms
    · cases h.symm.trans hread
    · cases h.symm.trans he
  · rintro ⟨e, he⟩
    obtain ⟨ms, hms⟩ := exists_spells_of_read (by rw [he]; exact nofun)
    obtain ⟨-, hread⟩ | ⟨hduration, -⟩ := hends ms hms
    · cases he.symm.trans hread
    · exact ⟨ms, hms, hduration⟩

/-- A sign between blanks, one sign too many, a blank before the unit, and a digit of
    another script. -/
example :
    read "\u2003-030m ".toList = .ok (some (-1800000)) ∧ read "+-1s".toList = .ok none
      ∧ read "1 s".toList = .ok none ∧ read "\u0661s".toList = .ok none := by
  decide +kernel

end Shift

end Fixture
