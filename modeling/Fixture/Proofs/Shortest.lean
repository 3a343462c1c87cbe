import Fixture.Number.Shortest
import Fixture.Proofs.Rounding
import Fixture.Proofs.WholeNumbers

/-! # The shortest decimal

    The shortest decimal of a number is taken from the interval of the reals that round
    to it, found by comparing whole numbers over a common denominator.  So rounding
    undoes it, whatever way the decimal is spelled out. -/

namespace Fixture

variable {f : Format} {c : Nat} {e : Int}

namespace Decimal

/-- The real that a decimal stands for. -/
def value (d : Decimal) : ℚ := d.coefficient * 10 ^ d.exponent

/-- Zeros at the end may be moved to the exponent. -/
theorem value_trim (fuel : Nat) (d : Decimal) : (trim fuel d).value = d.value := by
  induction fuel generalizing d with
  | zero => rfl
  | succ fuel ih =>
      rw [trim]
      split
      · rename_i hzero
        have hten : (d.coefficient : ℚ) = 10 * (d.coefficient / 10 : Nat) := by
          exact_mod_cast (Nat.mul_div_cancel' (Nat.dvd_of_mod_eq_zero hzero.1)).symm
        rw [ih, value, value, hten, zpow_add_one₀ (by norm_num)]
        ring
      · rfl

theorem value_normal (d : Decimal) : d.normal.value = d.value := value_trim _ d

end Decimal

namespace Rounding

/-- A quarter of a unit of the last place, over the denominator. -/
theorem scale_eq (e : Int) :
    ((if 2 ≤ e then 2 ^ (e - 2).toNat else 1 : Nat) : ℚ)
      = 2 ^ e / 4 * (if 2 ≤ e then 1 else 2 ^ (2 - e).toNat : Nat) := by
  split
  · rename_i he
    obtain ⟨k, hk⟩ := Int.eq_ofNat_of_zero_le (show 0 ≤ e - 2 by omega)
    obtain rfl : e = (k + 2 : Nat) := by omega
    rw [hk, Int.toNat_natCast, zpow_natCast, pow_add]
    push_cast
    ring
  · rename_i he
    obtain ⟨k, hk⟩ := Int.eq_ofNat_of_zero_le (show 0 ≤ 2 - e by omega)
    obtain rfl : e = 2 - (k : Int) := by omega
    rw [hk, Int.toNat_natCast, zpow_sub₀ (by norm_num), zpow_natCast]
    push_cast
    field_simp

/-- The interval over its denominator is the one of the reals. -/
theorem of_bounds (f : Format) (hc : c ≠ 0) (e : Int) :
    0 < (Rounding.of f c e).denominator
    ∧ ((Rounding.of f c e).low : ℚ)
      = (c - f.halfBelow c e) * 2 ^ e * (Rounding.of f c e).denominator
    ∧ ((Rounding.of f c e).high : ℚ) = (c + 1 / 2) * 2 ^ e * (Rounding.of f c e).denominator := by
  have hscale := scale_eq e
  rw [Rounding.of]
  simp only [Nat.pow_eq]
  refine ⟨by split <;> positivity, ?_, ?_⟩
  · have hbelow : ((4 * c - if c = 2 ^ (f.precision - 1) ∧ f.least < e then 1 else 2 : Nat) : ℚ)
        = 4 * (c - f.halfBelow c e) := by
      rw [Format.halfBelow]
      split
      · rw [Nat.cast_sub (by omega)]
        push_cast
        ring
      · rw [Nat.cast_sub (by omega)]
        push_cast
        ring
    rw [Nat.cast_mul, hbelow, hscale]
    ring
  · rw [Nat.cast_mul, hscale]
    push_cast
    ring

/-- A decimal is compared with the ends over powers of ten that make it whole. -/
theorem holds_iff (r : Rounding) (d : Decimal) :
    r.holds d = true ↔ if r.closed = true
      then (r.low : ℚ) ≤ d.value * r.denominator ∧ d.value * r.denominator ≤ r.high
      else (r.low : ℚ) < d.value * r.denominator ∧ d.value * r.denominator < r.high := by
  obtain ⟨up, down, hdown, hvalue, hholds⟩ : ∃ up down : Nat, 0 < down
      ∧ d.value * down = d.coefficient * up
      ∧ r.holds d = if r.closed then
          decide (r.low * down ≤ d.coefficient * up * r.denominator
            ∧ d.coefficient * up * r.denominator ≤ r.high * down)
        else decide (r.low * down < d.coefficient * up * r.denominator
            ∧ d.coefficient * up * r.denominator < r.high * down) := by
    refine ⟨_, _, ?_, ?_, rfl⟩
    · split
      · exact Nat.one_pos
      · exact Nat.pow_pos (by decide)
    · rw [Decimal.value]
      split
      · rename_i hx
        obtain ⟨k, hk⟩ := Int.eq_ofNat_of_zero_le hx
        simp [hk]
      · rename_i hx
        obtain ⟨k, hk⟩ := Int.exists_eq_neg_ofNat (Int.le_of_not_le hx)
        simp [hk]
  have hpos : (0 : ℚ) < down := by exact_mod_cast hdown
  have hpoint : ((d.coefficient * up * r.denominator : Nat) : ℚ)
      = d.value * r.denominator * down := by
    push_cast
    rw [← hvalue]
    ring
  have hle : ∀ n : Nat, n * down ≤ d.coefficient * up * r.denominator
      ↔ (n : ℚ) ≤ d.value * r.denominator := by
    intro n
    rw [← mul_le_mul_iff_of_pos_right hpos, ← hpoint]
    norm_cast
  have hge : ∀ n : Nat, d.coefficient * up * r.denominator ≤ n * down
      ↔ d.value * r.denominator ≤ n := by
    intro n
    rw [← mul_le_mul_iff_of_pos_right hpos, ← hpoint]
    norm_cast
  rw [hholds]
  split
  · rw [decide_eq_true_iff, hle, hge]
  · rw [decide_eq_true_iff, ← not_le, ← not_le, hle, hge, not_le, not_le]

/-- What is found to lie in the interval rounds to the number. -/
theorem roundsTo_of_holds {d : Decimal} (hc : c ≠ 0) (h : (Rounding.of f c e).holds d = true) :
    f.RoundsTo c e d.value := by
  obtain ⟨hden, hlow, hhigh⟩ := of_bounds f hc e
  have hclosed : (Rounding.of f c e).closed = decide (c % 2 = 0) := rfl
  rw [holds_iff, hclosed, hlow, hhigh] at h
  have hpos : (0 : ℚ) < (Rounding.of f c e).denominator := by exact_mod_cast hden
  rw [mul_le_mul_iff_of_pos_right hpos, mul_le_mul_iff_of_pos_right hpos,
    mul_lt_mul_iff_of_pos_right hpos, mul_lt_mul_iff_of_pos_right hpos] at h
  split at h
  · rename_i heven
    exact ⟨h.1, h.2, fun hodd => by simp [hodd] at heven⟩
  · exact ⟨h.1.le, h.2.le, fun _ => h⟩

/-- The number itself, written out. -/
theorem value_exact (c : Nat) (e : Int) : (exact c e).value = c * 2 ^ e := by
  rw [exact]
  split
  · rename_i he
    obtain ⟨k, rfl⟩ := Int.eq_ofNat_of_zero_le he
    simp [Decimal.value]
  · rename_i he
    obtain ⟨k, rfl⟩ := Int.exists_eq_neg_ofNat (Int.le_of_not_le he)
    have hten : (10 : ℚ) ^ k = 5 ^ k * 2 ^ k := by rw [← mul_pow]; norm_num
    simp only [Decimal.value, Int.neg_neg, Int.toNat_natCast, Nat.pow_eq, Nat.cast_mul,
      Nat.cast_pow, Nat.cast_ofNat, zpow_neg, zpow_natCast, hten]
    field_simp

end Rounding

/-- **THE SHORTEST DECIMAL** is in the interval of the number. -/
theorem shortest_roundsTo (f : Format) (tie : Tie) (hc : c ≠ 0) (e : Int) :
    f.RoundsTo c e (shortest f tie c e).value := by
  rw [shortest, Decimal.value_normal]
  cases hfound : (List.range 17).findSome? fun n : Nat =>
      (Rounding.of f c e).onGrid? tie ((Rounding.of f c e).magnitude - n) with
  | none =>
      rw [Option.getD_none, Rounding.value_exact]
      exact f.roundsTo_self c e
  | some d =>
      obtain ⟨n, -, hn⟩ := List.exists_of_findSome?_eq_some hfound
      exact Rounding.roundsTo_of_holds hc (Rounding.onGrid?_eq_some hn).2

/-- The shortest decimal of a number other than zero is not zero. -/
theorem coefficient_shortest (f : Format) (tie : Tie) (hc : c ≠ 0) (e : Int) :
    (shortest f tie c e).coefficient ≠ 0 := by
  intro hzero
  have hle := (shortest_roundsTo f tie hc e).half_le hc
  have hpow : (0 : ℚ) < 2 ^ (e - 1) := by positivity
  rw [Decimal.value, hzero, Nat.cast_zero, zero_mul] at hle
  linarith

/-- **READ BACK**: whatever way a decimal of the interval is spelled out, it is rounded to
    the number. -/
theorem Binary.ofDecimal_of_roundsTo (h : f.Canonical c e) (hf : f.Proper) {m : Nat} {x : Int}
    (hv : f.RoundsTo c e (m * 10 ^ x)) (negative : Bool) :
    ofDecimal negative m x = .finite negative c e h :=
  (rounds_ofDecimal hf negative m x).unique (.finite h hv) hf.precision

end Fixture
