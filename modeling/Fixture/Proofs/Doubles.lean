import Fixture.Convert.Scalar
import Fixture.Proofs.Spelling

/-! # Doubles as texts

    What a number looks like inside a longer text, and what is converted back from
    it.  A finite number is written as a decimal that is rounded to the number: in its
    places if the exponent of the decimal is from `-4` to `20`, and otherwise with one
    digit in front of the point and an exponent of at least two digits.  Both are
    literals that come to the decimal, so a double is converted to itself. -/

namespace Fixture

open Literal

variable {s : List Char} {x : Binary64}

/-! ## The exponent of a decimal -/

namespace Decimal

variable {d : Decimal}

/-- A coefficient has as many digits as it needs. -/
theorem exists_length_digits (hd : d.coefficient ≠ 0) :
    ∃ n, d.digits.length = n + 1 ∧ 10 ^ n ≤ d.coefficient ∧ d.coefficient < 10 ^ (n + 1) := by
  have hhigh : d.coefficient < 10 ^ d.digits.length :=
    (Nat.length_toDigits_le_iff (by decide) Nat.length_toDigits_pos).mp le_rfl
  obtain ⟨n, hn⟩ : ∃ n, d.digits.length = n + 1 :=
    Nat.exists_eq_add_one_of_ne_zero (List.length_pos_iff.mpr d.digits_ne_nil).ne'
  refine ⟨n, hn, ?_, hn ▸ hhigh⟩
  obtain rfl | hmany := Nat.eq_zero_or_pos n
  · exact Nat.pos_of_ne_zero hd
  · refine Nat.le_of_not_lt fun hlt => ?_
    have hshort := (Nat.length_toDigits_le_iff (by decide) hmany).mpr hlt
    rw [← digits, hn] at hshort
    omega

/-- The scientific exponent of a decimal is the largest power of ten that is no
    larger; that of zero is zero. -/
theorem magnitude_eq_log (hzero : d.coefficient = 0 → d.exponent = 0) :
    d.magnitude = Int.log 10 d.value := by
  by_cases hd : d.coefficient = 0
  · rw [magnitude, digits, value, hd, hzero hd, Nat.cast_zero, zero_mul,
      Int.log_of_right_le_zero _ le_rfl]
    decide
  obtain ⟨n, hn, hlow, hhigh⟩ := exists_length_digits hd
  have hmagnitude : d.magnitude = n + d.exponent := by
    rw [magnitude, hn]
    omega
  have hle : (10 : ℚ) ^ d.magnitude ≤ d.value := by
    rw [hmagnitude, zpow_add₀ (by norm_num), zpow_natCast, value]
    exact mul_le_mul_of_nonneg_right (by exact_mod_cast hlow) (by positivity)
  have hlt : d.value < (10 : ℚ) ^ (d.magnitude + 1) := by
    rw [hmagnitude, show (n : Int) + d.exponent + 1 = ((n + 1 : Nat) : Int) + d.exponent by omega,
      zpow_add₀ (by norm_num), zpow_natCast, value]
    exact mul_lt_mul_of_pos_right (by exact_mod_cast hhigh) (by positivity)
  have hpos : (0 : ℚ) < d.value := lt_of_lt_of_le (by positivity) hle
  refine Int.le_antisymm ?_ (Int.le_of_lt_add_one ?_)
  · rw [← Int.zpow_le_iff_le_log (by norm_num) hpos]
    exact_mod_cast hle
  · rw [← Int.lt_zpow_iff_log_lt (by norm_num) hpos]
    exact_mod_cast hlt

end Decimal

/-! ## What is written -/

/-- What a number looks like in a text.  The words stand for what is not finite; the
    others are written as a decimal that is rounded to the number, in its places or
    not as the exponent of the decimal says. -/
inductive Displays : Binary64 → List Char → Prop
  | nan : Displays .nan "NaN".toList
  | infinite {negative : Bool} :
      Displays (.infinite negative) ((if negative then ['-'] else []) ++ "inf".toList)
  | positional {negative : Bool} {c : Nat} {e : Int} {h : Format.binary64.Canonical c e}
      {s : List Char} {v : ℚ} (hv : Format.binary64.RoundsTo c e v)
      (hk : -4 ≤ Int.log 10 v ∧ Int.log 10 v < 21) (hs : IsPositional s v) :
      Displays (.finite negative c e h) ((if negative then ['-'] else []) ++ s)
  | scientific {negative : Bool} {c : Nat} {e : Int} {h : Format.binary64.Canonical c e}
      {s : List Char} {v : ℚ} (hv : Format.binary64.RoundsTo c e v)
      (hk : Int.log 10 v < -4 ∨ 21 ≤ Int.log 10 v) (hs : IsScientific 2 s v (Int.log 10 v)) :
      Displays (.finite negative c e h) ((if negative then ['-'] else []) ++ s)

namespace Style

theorem inFull_display (k : Int) : display.inFull k = true ↔ -4 ≤ k ∧ k < 21 := by
  show (decide (-4 ≤ k) && decide (k < 21)) = true ↔ _
  rw [Bool.and_eq_true_iff, decide_eq_true_iff, decide_eq_true_iff]

/-- **EVERY NUMBER IS WRITTEN** in one of the two ways, or as a word. -/
theorem displays_text (x : Binary64) : Displays x (display.text x) := by
  rw [text_eq_append]
  cases x with
  | nan => exact .nan
  | infinite negative => exact .infinite
  | finite negative c e canonical =>
      obtain ⟨d, htext, hv, hzero⟩ := display.exists_unsignedText negative canonical
      have hlog := Decimal.magnitude_eq_log hzero
      rw [htext]
      cases hfull : display.inFull d.magnitude with
      | true =>
          have hs := isPositional_decimalText hfull
          rw [inFull_display, hlog] at hfull
          exact .positional hv hfull hs
      | false =>
          have hs := isScientific_decimalText hfull
          rw [Bool.eq_false_iff, Ne, inFull_display, hlog] at hfull
          rw [hlog] at hs
          exact .scientific hv (by omega) hs

end Style

/-! ## What is converted back -/

namespace Convert

theorem readDouble_eq_ok_iff : readDouble s = .ok x ↔ Literal.Spells s x := by
  rw [readDouble, mapError_eq_ok_iff, read_eq_ok_iff]

theorem double_eq_ok_iff {v : Value} : double v = .ok x ↔ Literal.Spells v.render x := by
  rw [double, scalar_eq_ok_iff, readDouble_eq_ok_iff]

/-- **DOUBLES ARE CONVERTED TO THEMSELVES**, zeros with their signs, infinities and what
    is not a number included, and through either way of writing them down. -/
theorem double_number (x : Binary64) :
    double (.number x) = .ok x ∧ Displays x (Value.number x).render :=
  ⟨double_eq_ok_iff.mpr (Style.display.spells_text Format.proper_binary64 x),
    Style.displays_text x⟩

/-- Both sides of both ends of the range that is written in places. -/
example :
    let shown (m : Nat) (x : Int) : String := (Value.number (.ofDecimal true m x)).text
    shown 1 20 = "-100000000000000000000" ∧ shown 1 21 = "-1e+21"
      ∧ shown 125 (-6) = "-0.000125" ∧ shown 125 (-7) = "-1.25e-05" := by
  decide +kernel

end Convert

end Fixture
