import Mathlib.Algebra.Order.Field.Power
import Mathlib.Data.Int.Log
import Mathlib.Data.Rat.Floor
import Mathlib.Tactic.FieldSimp
import Mathlib.Tactic.Linarith
import Mathlib.Tactic.Positivity
import Mathlib.Tactic.Ring
import Fixture.Number.Binary

/-! # Rounding

    Around every number lies an interval of reals that round to it: half a gap to each
    side, the gap below a power of two being half as wide.  Intervals of different
    numbers have no real in common, and from halfway between the largest number and the
    next power of two on a real is too large for all of them.  So there is one number
    for every real, and whatever is rounded becomes that number: a quotient, a decimal,
    a whole number, or a number of another format.

    Rounding passes no even number: a bound on the real is a bound on the result, and
    two roundings in a row can be told apart by the first real that is rounded to the
    bound of the second. -/

namespace Fixture

variable {f : Format} {c c' num den : Nat} {e e' : Int} {v : ℚ} {negative : Bool}

/-! ## Intervals -/

namespace Format

/-- One is among the numbers of the format. -/
structure HasOne (f : Format) : Prop where
  precision : 0 < f.precision
  least : f.least ≤ 0
  greatest : 0 ≤ f.greatest

/-- Coefficients have more than one bit, so there are even ones in every binade. -/
structure Proper (f : Format) : Prop extends f.HasOne where
  wide : 1 < f.precision

theorem proper_binary64 : binary64.Proper := ⟨⟨by decide, by decide, by decide⟩, by decide⟩

theorem proper_binary32 : binary32.Proper := ⟨⟨by decide, by decide, by decide⟩, by decide⟩

/-- Half the gap below `c · 2 ^ e`, in units of the last place. -/
def halfBelow (f : Format) (c : Nat) (e : Int) : ℚ :=
  if c = 2 ^ (f.precision - 1) ∧ f.least < e then 1 / 4 else 1 / 2

/-- The reals that round to `c · 2 ^ e`; the ends do if the coefficient is even. -/
structure RoundsTo (f : Format) (c : Nat) (e : Int) (v : ℚ) : Prop where
  low : (c - f.halfBelow c e) * 2 ^ e ≤ v
  high : v ≤ (c + 1 / 2) * 2 ^ e
  strict : c % 2 = 1 → (c - f.halfBelow c e) * 2 ^ e < v ∧ v < (c + 1 / 2) * 2 ^ e

/-- Halfway between the largest number and the power of two behind it. -/
def overflow (f : Format) : ℚ := (2 ^ f.precision - 1 / 2) * 2 ^ f.greatest

/-- Half of the gap below a coefficient is something, and at most one half. -/
theorem halfBelow_bounds (f : Format) (c : Nat) (e : Int) :
    0 < f.halfBelow c e ∧ f.halfBelow c e ≤ 1 / 2 := by
  rw [halfBelow]
  split <;> norm_num

/-- The number itself rounds to itself. -/
theorem roundsTo_self (f : Format) (c : Nat) (e : Int) : f.RoundsTo c e (c * 2 ^ e) := by
  have hpow : (0 : ℚ) < 2 ^ e := by positivity
  have hlow : (c - f.halfBelow c e) * 2 ^ e < (c : ℚ) * 2 ^ e :=
    mul_lt_mul_of_pos_right (by linarith [(f.halfBelow_bounds c e).1]) hpow
  have hhigh : (c : ℚ) * 2 ^ e < (c + 1 / 2) * 2 ^ e :=
    mul_lt_mul_of_pos_right (by linarith) hpow
  exact ⟨hlow.le, hhigh.le, fun _ => ⟨hlow, hhigh⟩⟩

/-- No real of the interval is nearer to zero than half a unit of the last place. -/
theorem RoundsTo.half_le (h : f.RoundsTo c e v) (hc : c ≠ 0) : (2 : ℚ) ^ (e - 1) ≤ v := by
  have hone : (1 : ℚ) ≤ c := by exact_mod_cast Nat.pos_of_ne_zero hc
  have hhalf : (1 / 2 : ℚ) ≤ c - f.halfBelow c e := by
    linarith [(f.halfBelow_bounds c e).2]
  calc (2 : ℚ) ^ (e - 1) = 1 / 2 * 2 ^ e := by
        rw [zpow_sub_one₀ (by norm_num)]
        ring
    _ ≤ (c - f.halfBelow c e) * 2 ^ e := mul_le_mul_of_nonneg_right hhalf (by positivity)
    _ ≤ v := h.low

/-- A real that is rounded to a number below an even one is nearer to that number. -/
theorem RoundsTo.lt_of_lt {n : Nat} (h : f.RoundsTo c e v) (hn : c < n) (heven : n % 2 = 0) :
    v < (n - 1 / 2) * 2 ^ e := by
  have hpow : (0 : ℚ) < 2 ^ e := by positivity
  obtain hodd | hc : c % 2 = 1 ∨ c + 2 ≤ n := by omega
  · have hcast : (c : ℚ) + 1 ≤ n := by exact_mod_cast hn
    exact lt_of_lt_of_le (h.strict hodd).2 (mul_le_mul_of_nonneg_right (by linarith) hpow.le)
  · have hcast : (c : ℚ) + 2 ≤ n := by exact_mod_cast hc
    exact lt_of_le_of_lt h.high (mul_lt_mul_of_pos_right (by linarith) hpow)

/-- The interval of a number ends half a unit in front of the binade above. -/
theorem RoundsTo.lt_binade (hv : f.RoundsTo c e v) (h : f.Canonical c e)
    (hprecision : 0 < f.precision) : v < (2 ^ f.precision - 1 / 2) * 2 ^ e := by
  have heven : 2 ^ f.precision % 2 = 0 := by
    obtain ⟨p, hp⟩ := Nat.exists_eq_add_of_lt hprecision
    rw [hp, Nat.pow_succ, Nat.mul_mod_left]
  have hlt := hv.lt_of_lt h.1 heven
  rw [Nat.pow_eq] at hlt
  exact_mod_cast hlt

/-- **NO REAL TOO LARGE** is rounded to a number. -/
theorem RoundsTo.lt_overflow (hv : f.RoundsTo c e v) (h : f.Canonical c e)
    (hprecision : 0 < f.precision) : v < f.overflow := by
  have hone : (1 : ℚ) ≤ 2 ^ f.precision := one_le_pow₀ (by norm_num)
  refine (hv.lt_binade h hprecision).trans_le (mul_le_mul_of_nonneg_left ?_ (by linarith))
  exact zpow_le_zpow_right₀ (by norm_num) h.2.2.1

/-- The intervals of a binade begin behind the ends of those below. -/
theorem Canonical.end_le_low (h : f.Canonical c e) (hprecision : 0 < f.precision)
    (hleast : f.least ≤ e') (he : e' < e) :
    (2 ^ f.precision - 1 / 2) * 2 ^ e' ≤ (c - f.halfBelow c e) * (2 : ℚ) ^ e := by
  obtain ⟨p, hp⟩ : ∃ p, f.precision = p + 1 := ⟨f.precision - 1, by omega⟩
  obtain ⟨-, -, -, hbinade⟩ := h
  have hc : 2 ^ p ≤ c := by
    rw [hp, Nat.pow_eq] at hbinade
    exact hbinade.resolve_left (by omega)
  have hlow : (2 ^ p - 1 / 4 : ℚ) ≤ c - f.halfBelow c e := by
    obtain rfl | hlt := Nat.eq_or_lt_of_le hc
    · rw [halfBelow, if_pos ⟨by rw [hp, Nat.add_sub_cancel], by omega⟩]
      push_cast
      exact le_rfl
    · have hcast : (2 ^ p + 1 : ℚ) ≤ c := by exact_mod_cast hlt
      linarith [(f.halfBelow_bounds c e).2]
  have hone : (1 : ℚ) ≤ 2 ^ p := one_le_pow₀ (by norm_num)
  calc (2 ^ f.precision - 1 / 2) * (2 : ℚ) ^ e' = (2 ^ p - 1 / 4) * 2 ^ (e' + 1) := by
        rw [hp, pow_succ, zpow_add_one₀ (by norm_num)]
        ring
    _ ≤ (2 ^ p - 1 / 4) * 2 ^ e :=
        mul_le_mul_of_nonneg_left (zpow_le_zpow_right₀ (by norm_num) he) (by linarith)
    _ ≤ (c - f.halfBelow c e) * 2 ^ e := mul_le_mul_of_nonneg_right hlow (by positivity)

/-- Intervals of a binade lie side by side. -/
theorem RoundsTo.coefficient_le (hv : f.RoundsTo c e v) (hv' : f.RoundsTo c' e v) : c ≤ c' := by
  refine Nat.le_of_not_lt fun hlt => ?_
  have hpow : (0 : ℚ) < 2 ^ e := by positivity
  have hcast : (c' : ℚ) + 1 ≤ c := by exact_mod_cast hlt
  have hgap : (c - 1 / 2) * (2 : ℚ) ^ e ≤ (c - f.halfBelow c e) * 2 ^ e :=
    mul_le_mul_of_nonneg_right (by linarith [(f.halfBelow_bounds c e).2]) hpow.le
  -- Where two of them meet, one of the two coefficients is odd.
  obtain heven | hodd := Nat.mod_two_eq_zero_or_one c
  · linarith [hv'.lt_of_lt hlt heven, hv.low]
  · have hends : (c' + 1 / 2) * (2 : ℚ) ^ e ≤ (c - 1 / 2) * 2 ^ e :=
      mul_le_mul_of_nonneg_right (by linarith) hpow.le
    linarith [hv'.high, (hv.strict hodd).1]

/-- Intervals of a higher binade lie above all of a lower one. -/
theorem RoundsTo.exponent_le (hv : f.RoundsTo c e v) (h : f.Canonical c e)
    (hv' : f.RoundsTo c' e' v) (h' : f.Canonical c' e') (hprecision : 0 < f.precision) :
    e ≤ e' := by
  refine Int.not_lt.mp fun hlt => ?_
  linarith [h.end_le_low hprecision h'.2.1 hlt, hv.low, hv'.lt_binade h' hprecision]

/-- **NO REAL ROUNDS TO TWO NUMBERS.** -/
theorem RoundsTo.unique (hv : f.RoundsTo c e v) (h : f.Canonical c e)
    (hv' : f.RoundsTo c' e' v) (h' : f.Canonical c' e') (hprecision : 0 < f.precision) :
    c = c' ∧ e = e' := by
  obtain rfl := Int.le_antisymm (hv.exponent_le h hv' h' hprecision)
    (hv'.exponent_le h' hv h hprecision)
  exact ⟨Nat.le_antisymm (hv.coefficient_le hv') (hv'.coefficient_le hv), rfl⟩

/-- **ROUNDING PASSES NO EVEN NUMBER**: what is rounded to one or beyond is what lies
    at or behind the beginning of its interval. -/
theorem RoundsTo.le_iff (hv : f.RoundsTo c' e' v) (h' : f.Canonical c' e')
    (h : f.Canonical c e) (hprecision : 0 < f.precision) (heven : c % 2 = 0) :
    (c : ℚ) * 2 ^ e ≤ c' * 2 ^ e' ↔ (c - f.halfBelow c e) * 2 ^ e ≤ v := by
  have hbounds := f.halfBelow_bounds c e
  have hbounds' := f.halfBelow_bounds c' e'
  have hpow : (0 : ℚ) < 2 ^ e := by positivity
  have hpow' : (0 : ℚ) < 2 ^ e' := by positivity
  have hbegin : (c - f.halfBelow c e) * 2 ^ e ≤ (c : ℚ) * 2 ^ e :=
    mul_le_mul_of_nonneg_right (by linarith) hpow.le
  have hbegin' : (c' - f.halfBelow c' e') * 2 ^ e' ≤ (c' : ℚ) * 2 ^ e' :=
    mul_le_mul_of_nonneg_right (by linarith) hpow'.le
  rcases lt_trichotomy e e' with hlt | rfl | hgt
  · -- The number is in a binade below that of the result.
    have hself := (f.roundsTo_self c e).lt_binade h hprecision
    have hends := h'.end_le_low hprecision h.2.1 hlt
    exact iff_of_true (by linarith) (by linarith [hv.low])
  · rw [mul_le_mul_iff_of_pos_right hpow, Nat.cast_le]
    constructor
    · intro hle
      obtain rfl | hnext := Nat.eq_or_lt_of_le hle
      · exact hv.low
      · have hcast : (c : ℚ) + 1 ≤ c' := by exact_mod_cast hnext
        refine le_trans ?_ hv.low
        exact mul_le_mul_of_nonneg_right (by linarith) hpow.le
    · intro hle
      by_contra hlt
      have hnear := hv.lt_of_lt (Nat.lt_of_not_le hlt) heven
      have hhalf : (c - 1 / 2) * (2 : ℚ) ^ e ≤ (c - f.halfBelow c e) * 2 ^ e :=
        mul_le_mul_of_nonneg_right (by linarith) hpow.le
      linarith
  · -- It is in a binade above.
    have hself := (f.roundsTo_self c' e').lt_binade h' hprecision
    have hlt := hv.lt_binade h' hprecision
    have hends := h.end_le_low hprecision h'.2.1 hgt
    exact iff_of_false (by linarith) (by linarith)

end Format

/-! ## What a real becomes -/

namespace Binary

/-- A real that is rounded with a sign in front of it, and the number that it becomes. -/
inductive Rounds (negative : Bool) (v : ℚ) : Binary f → Prop
  | finite {c : Nat} {e : Int} (h : f.Canonical c e) (hv : f.RoundsTo c e v) :
      Rounds negative v (.finite negative c e h)
  | infinite (hv : f.overflow ≤ v) : Rounds negative v (.infinite negative)

/-- **ROUNDING IS A FUNCTION**: there is one number that a real is rounded to. -/
theorem Rounds.unique {x y : Binary f} (hx : Rounds negative v x) (hy : Rounds negative v y)
    (hprecision : 0 < f.precision) : x = y := by
  cases hx with
  | finite h hv =>
      cases hy with
      | finite h' hv' =>
          obtain ⟨rfl, rfl⟩ := hv.unique h hv' h' hprecision
          rfl
      | infinite hv' => exact absurd (hv.lt_overflow h hprecision) (not_lt.mpr hv')
  | infinite hv =>
      cases hy with
      | finite h' hv' => exact absurd (hv'.lt_overflow h' hprecision) (not_lt.mpr hv)
      | infinite hv' => rfl

/-- A real is rounded to a number exactly if it is not too large. -/
theorem Rounds.isFinite_iff {x : Binary f} (h : Rounds negative v x)
    (hprecision : 0 < f.precision) : x.isFinite = true ↔ v < f.overflow := by
  cases h with
  | finite canonical hv => exact iff_of_true rfl (hv.lt_overflow canonical hprecision)
  | infinite hv => exact iff_of_false Bool.false_ne_true (not_lt.mpr hv)

/-- What a real is rounded to is finite or infinite. -/
theorem Rounds.isInfinite_iff {x : Binary f} (h : Rounds negative v x) :
    x.isInfinite = true ↔ ¬ x.isFinite = true := by
  cases h with
  | finite canonical hv => exact iff_of_false Bool.false_ne_true (not_not.mpr rfl)
  | infinite hv => exact iff_of_true rfl Bool.false_ne_true

/-! ## The nearest whole number -/

/-- The nearest whole number of units `2 ^ e`; halfway between two, it is the even
    one. -/
structure Nearest (c : Nat) (e : Int) (v : ℚ) : Prop where
  low : (c - 1 / 2) * 2 ^ e ≤ v
  high : v ≤ (c + 1 / 2) * 2 ^ e
  strict : c % 2 = 1 → (c - 1 / 2) * 2 ^ e < v ∧ v < (c + 1 / 2) * 2 ^ e

/-- A quotient is rounded by taking its nearest whole number, or the even one of two. -/
theorem nearest_nearestEven (num : Nat) (hden : 0 < den) :
    Nearest (nearestEven num den) 0 (num / den) := by
  have hpos : (0 : ℚ) < den := by exact_mod_cast hden
  have hdiv := Nat.div_add_mod num den
  have hmod := Nat.mod_lt num hden
  -- Twice the number, in units of the denominator.
  have hbounds : 2 * (den * nearestEven num den) ≤ 2 * num + den
      ∧ 2 * num ≤ 2 * (den * nearestEven num den) + den
      ∧ (nearestEven num den % 2 = 1 → 2 * (den * nearestEven num den) < 2 * num + den
        ∧ 2 * num < 2 * (den * nearestEven num den) + den) := by
    rw [nearestEven]
    generalize num / den = q at *
    generalize num % den = r at *
    split
    · omega
    · rw [Nat.mul_add]
      omega
  generalize nearestEven num den = n at hbounds
  obtain ⟨hlow, hhigh, hstrict⟩ := hbounds
  have hlow' : (2 * (den * n) : ℚ) ≤ 2 * num + den := by exact_mod_cast hlow
  have hhigh' : (2 * num : ℚ) ≤ 2 * (den * n) + den := by exact_mod_cast hhigh
  constructor
  · rw [zpow_zero, mul_one, le_div_iff₀ hpos]
    linarith
  · rw [zpow_zero, mul_one, div_le_iff₀ hpos]
    linarith
  · intro hodd
    obtain ⟨hl, hh⟩ := hstrict hodd
    have hl' : (2 * (den * n) : ℚ) < 2 * num + den := by exact_mod_cast hl
    have hh' : (2 * num : ℚ) < 2 * (den * n) + den := by exact_mod_cast hh
    rw [zpow_zero, mul_one, mul_one, lt_div_iff₀ hpos, div_lt_iff₀ hpos]
    constructor <;> linarith

/-- Scaling keeps the quotient apart from the power of two. -/
theorem scaleDown_div (num : Nat) (hden : 0 < den) (e : Int) :
    0 < (scaleDown num den e).2
    ∧ ((scaleDown num den e).1 : ℚ) / (scaleDown num den e).2 = num / den / 2 ^ e := by
  rw [scaleDown]
  split
  · rename_i he
    obtain ⟨k, rfl⟩ := Int.eq_ofNat_of_zero_le he
    refine ⟨Nat.mul_pos hden (Nat.pow_pos (by decide)), ?_⟩
    rw [Int.toNat_natCast, Nat.pow_eq, Nat.cast_mul, Nat.cast_pow, zpow_natCast, div_div]
    rfl
  · rename_i he
    obtain ⟨k, rfl⟩ := Int.exists_eq_neg_ofNat (Int.le_of_not_le he)
    refine ⟨hden, ?_⟩
    rw [Int.neg_neg, Int.toNat_natCast, Nat.pow_eq, Nat.cast_mul, Nat.cast_pow, zpow_neg,
      zpow_natCast, div_inv_eq_mul, div_mul_eq_mul_div]
    rfl

/-- A quotient is rounded to the nearest whole number of units. -/
theorem nearest_scaleDown (num : Nat) (hden : 0 < den) (e : Int) :
    Nearest (nearestEven (scaleDown num den e).1 (scaleDown num den e).2) e (num / den) := by
  have hpow : (0 : ℚ) < 2 ^ e := by positivity
  obtain ⟨hscaled, hscale⟩ := scaleDown_div num hden e
  obtain ⟨hlow, hhigh, hstrict⟩ := nearest_nearestEven (scaleDown num den e).1 hscaled
  simp only [hscale, zpow_zero, mul_one, le_div_iff₀ hpow, div_le_iff₀ hpow, lt_div_iff₀ hpow,
    div_lt_iff₀ hpow] at hlow hhigh hstrict
  exact ⟨hlow, hhigh, hstrict⟩

/-- What is below a power of two is rounded to no more than the power. -/
theorem Nearest.le_pow (h : Nearest c e v) {k : Nat} (hv : v < 2 ^ ((k : Int) + e)) :
    c ≤ 2 ^ k := by
  rw [zpow_add₀ (by norm_num), zpow_natCast] at hv
  have hlt := lt_of_mul_lt_mul_right (h.low.trans_lt hv) (by positivity)
  have hcast : (c : ℚ) < (2 ^ k + 1 : Nat) := by
    push_cast
    linarith
  exact Nat.le_of_lt_succ (by exact_mod_cast hcast)

/-- What is no less than a power of two is rounded to no less than the power. -/
theorem Nearest.pow_le (h : Nearest c e v) {k : Nat} (hv : (2 : ℚ) ^ ((k : Int) + e) ≤ v) :
    2 ^ k ≤ c := by
  rw [zpow_add₀ (by norm_num), zpow_natCast] at hv
  have hle := le_of_mul_le_mul_right (hv.trans h.high) (by positivity)
  have hcast : ((2 ^ k : Nat) : ℚ) < (c + 1 : Nat) := by
    push_cast
    linarith
  exact Nat.le_of_lt_succ (by exact_mod_cast hcast)

/-- Nearest on its grid, a number is rounded to unless the real is in the binade
    below a power of two. -/
theorem Nearest.roundsTo (h : Nearest c e v)
    (hbinade : c = 2 ^ (f.precision - 1) → f.least < e → (c : ℚ) * 2 ^ e ≤ v) :
    f.RoundsTo c e v := by
  have hpow : (0 : ℚ) < 2 ^ e := by positivity
  obtain ⟨hlow, hhigh, hstrict⟩ := h
  by_cases hquarter : c = 2 ^ (f.precision - 1) ∧ f.least < e
  · have hself := hbinade hquarter.1 hquarter.2
    have hlt : (c - f.halfBelow c e) * 2 ^ e < v :=
      lt_of_lt_of_le (mul_lt_mul_of_pos_right (by linarith [(f.halfBelow_bounds c e).1]) hpow) hself
    exact ⟨hlt.le, hhigh, fun hodd => ⟨hlt, (hstrict hodd).2⟩⟩
  · have hhalf : f.halfBelow c e = 1 / 2 := if_neg hquarter
    exact ⟨hhalf ▸ hlow, hhigh, hhalf ▸ hstrict⟩

/-- A carry out of the coefficient is the power of two in the binade above. -/
theorem Nearest.roundsTo_carry {p : Nat} (h : Nearest (2 ^ (p + 2)) e v)
    (hp : f.precision = p + 2) (he : f.least ≤ e) (hlt : v < 2 ^ (((p + 2 : Nat) : Int) + e)) :
    f.RoundsTo (2 ^ (p + 1)) (e + 1) v := by
  have hquarter : f.halfBelow (2 ^ (p + 1)) (e + 1) = 1 / 4 :=
    if_pos ⟨by rw [hp, Nat.add_sub_cancel (m := 1)], by omega⟩
  have hpow : (0 : ℚ) < 2 ^ e := by positivity
  have hlow := h.low
  refine ⟨?_, ?_, fun hodd => ?_⟩
  · rw [hquarter, zpow_add_one₀ (by norm_num)]
    refine le_of_eq_of_le ?_ hlow
    push_cast
    ring
  · rw [zpow_add₀ (by norm_num), zpow_natCast] at hlt
    rw [zpow_add_one₀ (by norm_num)]
    refine hlt.le.trans ?_
    push_cast
    rw [pow_succ 2 (p + 1)]
    linarith
  · rw [Nat.pow_succ] at hodd
    omega

/-! ## Quotients -/

theorem zpow_two_le_iff {k : Int} (hv : 0 < v) : (2 : ℚ) ^ k ≤ v ↔ k ≤ Int.log 2 v := by
  exact_mod_cast Int.zpow_le_iff_le_log one_lt_two hv

theorem lt_zpow_two_iff {k : Int} (hv : 0 < v) : v < (2 : ℚ) ^ k ↔ Int.log 2 v < k := by
  exact_mod_cast Int.lt_zpow_iff_log_lt one_lt_two hv

/-- The leading bit is the largest power of two that is no larger. -/
theorem leadingBit_eq_log (hnum : num ≠ 0) (hden : den ≠ 0) :
    leadingBit num den = Int.log 2 ((num : ℚ) / den) := by
  have hnumpos : (0 : ℚ) < num := by exact_mod_cast Nat.pos_of_ne_zero hnum
  have hpos : (0 : ℚ) < den := by exact_mod_cast Nat.pos_of_ne_zero hden
  have hnumlow : (2 : ℚ) ^ num.log2 ≤ num := by exact_mod_cast Nat.log2_self_le hnum
  have hnumhigh : (num : ℚ) < 2 ^ (num.log2 + 1) := by exact_mod_cast Nat.lt_log2_self
  have hdenlow : (2 : ℚ) ^ den.log2 ≤ den := by exact_mod_cast Nat.log2_self_le hden
  have hdenhigh : (den : ℚ) < 2 ^ (den.log2 + 1) := by exact_mod_cast Nat.lt_log2_self
  -- The difference of the two leading bits is right or one too large.
  have hhigh : (num : ℚ) / den < 2 ^ ((num.log2 : Int) - den.log2 + 1) := by
    rw [div_lt_iff₀ hpos, zpow_add_one₀ (by norm_num), zpow_sub₀ (by norm_num), zpow_natCast,
      zpow_natCast]
    calc (num : ℚ) < 2 ^ (num.log2 + 1) := hnumhigh
      _ = 2 ^ num.log2 / 2 ^ den.log2 * 2 * 2 ^ den.log2 := by field_simp; ring
      _ ≤ 2 ^ num.log2 / 2 ^ den.log2 * 2 * den :=
          mul_le_mul_of_nonneg_left hdenlow (by positivity)
  have hlow : (2 : ℚ) ^ ((num.log2 : Int) - den.log2 - 1) ≤ num / den := by
    rw [le_div_iff₀ hpos, zpow_sub_one₀ (by norm_num), zpow_sub₀ (by norm_num), zpow_natCast,
      zpow_natCast]
    calc (2 : ℚ) ^ num.log2 / 2 ^ den.log2 * 2⁻¹ * den
        ≤ 2 ^ num.log2 / 2 ^ den.log2 * 2⁻¹ * 2 ^ (den.log2 + 1) :=
          mul_le_mul_of_nonneg_left hdenhigh.le (by positivity)
      _ = 2 ^ num.log2 := by field_simp; ring
      _ ≤ num := hnumlow
  have hquotient : (0 : ℚ) < num / den := by positivity
  rw [zpow_two_le_iff hquotient] at hlow
  rw [lt_zpow_two_iff hquotient] at hhigh
  rw [leadingBit]
  obtain ⟨hscaled, hscale⟩ :=
    scaleDown_div num (Nat.pos_of_ne_zero hden) ((num.log2 : Int) - den.log2)
  generalize (num.log2 : Int) - den.log2 = guess at *
  generalize scaleDown num den guess = scaled at *
  have hscaled' : (0 : ℚ) < scaled.2 := by exact_mod_cast hscaled
  have hguess : scaled.1 < scaled.2 ↔ Int.log 2 ((num : ℚ) / den) < guess := by
    rw [← lt_zpow_two_iff hquotient, ← div_lt_one (by positivity : (0 : ℚ) < 2 ^ guess),
      ← hscale, div_lt_one hscaled', Nat.cast_lt]
  split
  · rename_i hlt
    have := hguess.mp hlt
    omega
  · rename_i hge
    have := mt hguess.mpr hge
    omega

/-- What is at least the power of two behind the largest number is too large. -/
theorem overflow_le_of_pow_le (h : (2 : ℚ) ^ ((f.precision : Int) + f.greatest) ≤ v) :
    f.overflow ≤ v := by
  refine le_trans ?_ h
  rw [Format.overflow, zpow_add₀ (by norm_num), zpow_natCast]
  exact mul_le_mul_of_nonneg_right (by linarith) (by positivity)

/-- So is what is rounded up to a power of two behind it. -/
theorem Nearest.overflow_le (h : Nearest (2 ^ f.precision) e v) (he : f.greatest ≤ e) :
    f.overflow ≤ v := by
  have hone : (1 : ℚ) ≤ 2 ^ f.precision := one_le_pow₀ (by norm_num)
  have hpow : (2 : ℚ) ^ f.greatest ≤ 2 ^ e := zpow_le_zpow_right₀ (by norm_num) he
  refine le_trans ?_ h.low
  push_cast
  exact mul_le_mul_of_nonneg_left hpow (by linarith)

/-- A number in canonical position but for its exponent, which may be too large. -/
theorem rounds_ofScaled (hwide : c < 2 ^ f.precision) (hleast : f.least ≤ e)
    (hbinade : e = f.least ∨ 2 ^ (f.precision - 1) ≤ c) (hv : f.RoundsTo c e v)
    (hover : f.greatest < e → f.overflow ≤ v) (negative : Bool) :
    Rounds negative v (ofScaled negative c e : Binary f) := by
  rw [ofScaled]
  split
  · rename_i h
    exact .finite h hv
  · rename_i h
    refine .infinite (hover (Int.not_le.mp fun hgreatest => h ?_))
    exact ⟨hwide, hleast, hgreatest, hbinade⟩

/-- What is no more than half the least number is rounded to zero. -/
theorem rounds_zero (hf : f.HasOne) (hnonneg : 0 ≤ v) (hv : v ≤ 2 ^ (f.least - 1))
    (negative : Bool) : Rounds negative v (ofScaled negative 0 f.least : Binary f) := by
  have hpow : (0 : ℚ) < 2 ^ f.least := by positivity
  have hrange : f.least ≤ f.greatest := hf.least.trans hf.greatest
  refine rounds_ofScaled (Nat.pow_pos (by decide)) le_rfl (Or.inl rfl) ⟨?_, ?_, ?_⟩ (by omega)
    negative
  · refine le_trans (mul_nonpos_of_nonpos_of_nonneg ?_ hpow.le) hnonneg
    rw [Nat.cast_zero, zero_sub]
    exact neg_nonpos.mpr (f.halfBelow_bounds 0 f.least).1.le
  · rw [zpow_sub_one₀ (by norm_num)] at hv
    rw [Nat.cast_zero]
    linarith
  · intro hodd
    cases hodd

/-- **EVERY QUOTIENT IS ROUNDED** to the number in whose interval it lies, or is too
    large. -/
theorem rounds_ofQuotient (hf : f.Proper) (negative : Bool) (num : Nat) (hden : den ≠ 0) :
    Rounds negative (num / den) (ofQuotient negative num den : Binary f) := by
  have hwide := hf.wide
  have hrange : f.least ≤ f.greatest := hf.least.trans hf.greatest
  obtain ⟨p, hp⟩ : ∃ p, f.precision = p + 2 := ⟨f.precision - 2, by omega⟩
  rw [ofQuotient]
  by_cases hnum : num = 0
  · rw [if_pos hnum, hnum, Nat.cast_zero, zero_div]
    exact rounds_zero hf.toHasOne le_rfl (by positivity) negative
  rw [if_neg hnum]
  have hden' := Nat.pos_of_ne_zero hden
  have hnum' := Nat.pos_of_ne_zero hnum
  have hpos : (0 : ℚ) < num / den := by positivity
  simp only [hp, leadingBit_eq_log hnum hden, Nat.pow_eq]
  generalize hv : (num : ℚ) / den = v at *
  -- The place of the last bit, and what it says of the quotient.
  generalize hplace : max f.least (Int.log 2 v - (((p + 2 : Nat) : Int) - 1)) = e
  have hleast : f.least ≤ e := by omega
  have hlt : v < 2 ^ (((p + 2 : Nat) : Int) + e) := by
    rw [lt_zpow_two_iff hpos]
    omega
  have hle : e = f.least ∨ (2 : ℚ) ^ (((p + 1 : Nat) : Int) + e) ≤ v := by
    rw [zpow_two_le_iff hpos]
    omega
  have hnearest := nearest_scaleDown num hden' e
  rw [hv] at hnearest
  generalize nearestEven (scaleDown num den e).1 (scaleDown num den e).2 = n at *
  split
  · -- The coefficient is carried into the next binade.
    rename_i hcarry
    rw [hcarry] at hnearest
    refine rounds_ofScaled ?_ (by omega) (Or.inr ?_) (hnearest.roundsTo_carry hp hleast hlt)
      (fun hover => Nearest.overflow_le (f := f) (hp ▸ hnearest) (by omega)) negative
    · rw [hp]
      exact Nat.pow_lt_pow_right (by decide) (by omega)
    · rw [hp]
      exact le_rfl
  · rename_i hcarry
    have hn : n < 2 ^ f.precision := by
      rw [hp]
      exact Nat.lt_of_le_of_ne (hnearest.le_pow hlt) hcarry
    have hn' : e = f.least ∨ 2 ^ (f.precision - 1) ≤ n := by
      rw [hp]
      exact hle.imp_right hnearest.pow_le
    refine rounds_ofScaled hn hleast hn' (hnearest.roundsTo ?_) ?_ negative
    · -- A power of two that is not the least number stays in its own binade.
      intro hpower hgap
      refine le_of_eq_of_le ?_ (hle.resolve_left (by omega))
      rw [hpower, hp, zpow_add₀ (by norm_num), zpow_natCast]
      push_cast
      rfl
    · intro hover
      refine overflow_le_of_pow_le (le_trans ?_ (hle.resolve_left (by omega)))
      exact zpow_le_zpow_right₀ (by norm_num) (by omega)

/-! ## Decimals, whole numbers and other formats -/

theorem zpow_two_mul_three (k : Int) : (2 : ℚ) ^ (3 * k) = 8 ^ k := by
  rw [zpow_mul]
  norm_num

/-- Three binary places are less than a decimal one in front of the point. -/
theorem zpow_two_le_decimal {m : Nat} {x k : Int} (hm : m ≠ 0) (hx : 0 ≤ x) (hk : k ≤ 3 * x) :
    (2 : ℚ) ^ k ≤ m * 10 ^ x := by
  have hm' : (1 : ℚ) ≤ m := by exact_mod_cast Nat.pos_of_ne_zero hm
  calc (2 : ℚ) ^ k ≤ 2 ^ (3 * x) := zpow_le_zpow_right₀ (by norm_num) hk
    _ = 8 ^ x := zpow_two_mul_three x
    _ ≤ 10 ^ x := zpow_le_zpow_left₀ hx (by norm_num) (by norm_num)
    _ ≤ m * 10 ^ x := le_mul_of_one_le_left (by positivity) hm'

/-- So are they behind the point, where `10 ^ x` is the place of the last digit. -/
theorem decimal_lt_zpow_two {m : Nat} {x k : Int}
    (hx : ((Nat.toDigits 10 m).length : Int) + x ≤ 0)
    (hk : 3 * (((Nat.toDigits 10 m).length : Int) + x) ≤ k) : (m : ℚ) * 10 ^ x < 2 ^ k := by
  have hdigits : (m : ℚ) < 10 ^ (Nat.toDigits 10 m).length := by
    exact_mod_cast (Nat.length_toDigits_le_iff (by decide) (Nat.length_toDigits_pos)).mp le_rfl
  generalize (Nat.toDigits 10 m).length = n at hx hk hdigits
  calc (m : ℚ) * 10 ^ x < 10 ^ n * 10 ^ x := mul_lt_mul_of_pos_right hdigits (by positivity)
    _ = 10 ^ ((n : Int) + x) := by rw [zpow_add₀ (by norm_num), zpow_natCast]
    _ ≤ 8 ^ ((n : Int) + x) := by
        obtain ⟨j, hj⟩ := Int.exists_eq_neg_ofNat hx
        rw [hj, zpow_neg, zpow_neg]
        exact inv_anti₀ (by positivity)
          (zpow_le_zpow_left₀ (Int.natCast_nonneg j) (by norm_num) (by norm_num))
    _ = 2 ^ (3 * ((n : Int) + x)) := (zpow_two_mul_three _).symm
    _ ≤ 2 ^ k := zpow_le_zpow_right₀ (by norm_num) hk

/-- **EVERY DECIMAL IS ROUNDED**, also where its power of ten is not computed. -/
theorem rounds_ofDecimal (hf : f.Proper) (negative : Bool) (m : Nat) (x : Int) :
    Rounds negative (m * 10 ^ x) (ofDecimal negative m x : Binary f) := by
  obtain ⟨hprecision, hleast, hgreatest⟩ := hf.toHasOne
  rw [ofDecimal]
  split
  · rename_i hm
    rw [hm, Nat.cast_zero, zero_mul]
    exact rounds_zero hf.toHasOne le_rfl (by positivity) negative
  · rename_i hm
    split
    · exact .infinite (overflow_le_of_pow_le (zpow_two_le_decimal hm (by omega) (by omega)))
    · split
      · exact rounds_zero hf.toHasOne (by positivity)
          (decimal_lt_zpow_two (by omega) (by omega)).le negative
      · split
        · rename_i hx
          obtain ⟨k, rfl⟩ := Int.eq_ofNat_of_zero_le hx
          have hrounds := rounds_ofQuotient hf negative (m * 10 ^ k) one_ne_zero
          simpa using hrounds
        · rename_i hx
          obtain ⟨k, rfl⟩ := Int.exists_eq_neg_ofNat (Int.le_of_not_le hx)
          have hden : 10 ^ k ≠ 0 := by simp
          have hrounds := rounds_ofQuotient hf negative m hden
          simpa [div_eq_mul_inv] using hrounds

/-- **EVERY WHOLE NUMBER IS ROUNDED.** -/
theorem rounds_ofInt (hf : f.Proper) (n : Int) :
    Rounds (n < 0) n.natAbs (ofInt n : Binary f) := by
  have hrounds := rounds_ofQuotient hf (n < 0) n.natAbs one_ne_zero
  rwa [Nat.cast_one, div_one] at hrounds

/-- A finite number of one format is rounded to another one. -/
theorem rounds_convert {g : Format} (hf : f.Proper) (h : g.Canonical c e) (negative : Bool) :
    Rounds negative (c * 2 ^ e) (convert (.finite negative c e h : Binary g) : Binary f) := by
  rw [convert, ofScaledQuotient]
  split
  · rename_i he
    obtain ⟨k, rfl⟩ := Int.eq_ofNat_of_zero_le he
    have hrounds := rounds_ofQuotient hf negative (c * 2 ^ k) one_ne_zero
    simpa using hrounds
  · rename_i he
    obtain ⟨k, rfl⟩ := Int.exists_eq_neg_ofNat (Int.le_of_not_le he)
    have hden : 1 * 2 ^ k ≠ 0 := by simp
    have hrounds := rounds_ofQuotient hf negative c hden
    simpa [div_eq_mul_inv] using hrounds

end Binary

end Fixture
