import Fixture.Proofs.Overflow

/-! # What derived tags are written with

    Digests, encodings and moments are made of digits, letters and a few signs.
    An opening bracket is not among them, so no tag can begin in what a derived
    tag was replaced by. -/

namespace Fixture

/-- No number has a bracket among its digits. -/
theorem open_not_mem_toDigits {b : Nat} (hb : 1 < b) (n : Nat) :
    '[' ∉ Nat.toDigits b n := by
  have hdigit : ∀ d : Nat, '[' ≠ Nat.digitChar d :=
    fun d => (Nat.digitChar_ne '[' (by decide)).symm
  induction n using Nat.strongRecOn with
  | ind n ih =>
      by_cases hn : n < b
      · rw [Nat.toDigits_of_lt_base hn, List.mem_singleton]
        exact hdigit n
      · have hle : b ≤ n := Nat.le_of_not_lt hn
        rw [Nat.toDigits_of_base_le hb hle, List.mem_append, List.mem_singleton]
        rintro (h | h)
        · exact ih (n / b) (Nat.div_lt_self (by omega) hb) h
        · exact hdigit (n % b) h

theorem Sha256.open_not_mem_hex (bytes : List UInt8) : '[' ∉ hex bytes := by
  intro h
  obtain ⟨w, -, hw⟩ := List.mem_flatMap.mp h
  rcases List.mem_append.mp hw with hw | hw
  · exact absurd (List.eq_of_mem_replicate hw) (by decide)
  · exact open_not_mem_toDigits (by decide) _ hw

theorem Base64.open_ne_symbol (n : Nat) : '[' ≠ symbol n := by
  rw [symbol, List.getD_eq_getElem?_getD]
  cases h : alphabet[n % 64]? with
  | none => decide
  | some c =>
      have hmem : c ∈ alphabet := List.mem_of_getElem? h
      rintro rfl
      exact absurd hmem (by decide +kernel)

/-- No bytes are encoded with an opening bracket. -/
theorem Base64.open_not_mem_encode (bytes : List UInt8) : '[' ∉ encode bytes := by
  fun_induction encode bytes with
  | case1 => exact List.not_mem_nil
  | case2 a n => simp [open_ne_symbol]
  | case3 a b n => simp [open_ne_symbol]
  | case4 a b c rest n ih => simp [open_ne_symbol, ih]

namespace Moment

theorem open_not_mem_padded (width n : Nat) : '[' ∉ padded width n := by
  intro h
  rcases List.mem_append.mp h with h | h
  · exact absurd (List.eq_of_mem_replicate h) (by decide)
  · exact open_not_mem_toDigits (by decide) n h

/-- A fraction of a second has no opening bracket. -/
theorem open_not_mem_fraction (nanos : Nat) : '[' ∉ fraction nanos := by
  rw [fraction]
  split
  · exact List.not_mem_nil
  · intro h
    rcases List.mem_cons.mp h with h | h
    · exact absurd h (by decide)
    · have h' := List.mem_reverse.mp h
      have h'' := List.mem_reverse.mp ((List.dropWhile_sublist _).subset h')
      exact open_not_mem_padded 9 nanos h''

theorem open_not_mem_offsetText (offset : Int) : '[' ∉ offsetText offset := by
  rw [offsetText]
  split
  · decide
  · split <;> simp [open_not_mem_padded]

/-- A date has no opening bracket. -/
theorem open_not_mem_rfc3339? {m : Moment} {s : List Char} (h : m.rfc3339? = some s) :
    '[' ∉ s := by
  rw [rfc3339?] at h
  split at h
  · cases h
  · obtain rfl := Option.some.inj h
    simp [open_not_mem_padded, open_not_mem_fraction, open_not_mem_offsetText]

theorem open_not_mem_toString (n : Int) : '[' ∉ (toString n).toList := by
  rw [Int.toString_eq_repr, Int.repr_eq_if]
  split
  · simp [open_not_mem_toDigits]
  · simp [open_not_mem_toDigits]

/-- A moment has no opening bracket in any format. -/
theorem open_not_mem_inFormat {m : Moment} {format : String} {s : List Char}
    (h : renderTag.inFormat m format = some s) : '[' ∉ s := by
  unfold renderTag.inFormat at h
  split at h
  · exact open_not_mem_rfc3339? h
  · exact open_not_mem_rfc3339? h
  · obtain rfl := Option.some.inj h
    exact open_not_mem_toString m.seconds
  · obtain rfl := Option.some.inj h
    exact open_not_mem_toString m.unixMilliseconds
  · cases h

/-- **NO BRACKETS**: the moment of a tag has no opening bracket in any of its
    formats. -/
theorem open_not_mem_renderTag {clock : Moment} {c new : List Char}
    (h : clock.renderTag c = .ok (some new)) : '[' ∉ new := by
  rw [renderTag_eq_map] at h
  cases hread : Shift.read (shiftText c) with
  | error e =>
      rw [hread] at h
      cases h
  | ok milliseconds? =>
      rw [hread] at h
      obtain ⟨m, -, hm⟩ := Option.bind_eq_some_iff.mp (Except.ok.inj h)
      exact open_not_mem_inFormat hm

end Moment

end Fixture
