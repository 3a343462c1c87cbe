import Fixture.Proofs.Doubles
import Fixture.Proofs.Rounding

/-! # Narrowing to single precision

    A text is read as a double, and the double is rounded a second time.  A literal is
    refused if the double is finite and the single is not, so the range of singles ends
    where both roundings together pass it, a little in front of the middle between the
    largest single and `2 ^ 128`.  A literal that is too large even for a double has
    become infinite before, and is narrowed like the word for it. -/

namespace Fixture

open Literal

variable {c : Nat} {e : Int} {v : ℚ} {negative : Bool} {w : Value} {x : Binary64}

/-! ## Both roundings -/

namespace Format

theorem overflow_eq (f : Format) :
    f.overflow = 2 ^ ((f.precision : Int) + f.greatest) - 2 ^ (f.greatest - 1) := by
  rw [overflow, zpow_add₀ (by norm_num), zpow_natCast, zpow_sub_one₀ (by norm_num)]
  ring

theorem overflow_binary64 : binary64.overflow = 2 ^ 1024 - 2 ^ 970 :=
  binary64.overflow_eq.trans (congrArg₂ (· - ·) (zpow_natCast 2 1024) (zpow_natCast 2 970))

/-- The end of the range of singles is a double, and has an even coefficient. -/
theorem overflow_binary32 : binary32.overflow = (9007198986305536 : Nat) * 2 ^ (75 : Int) := by
  rw [overflow, binary32]
  norm_num

/-- Doubles go on where the range of singles has ended. -/
theorem range_lt_overflow : (2 ^ 128 - 2 ^ 103 - 2 ^ 74 : ℚ) < binary64.overflow := by
  have hpow : (2 : ℚ) ^ (128 : Int) ≤ 2 ^ (971 : Int) :=
    zpow_le_zpow_right₀ (by norm_num) (by decide)
  calc (2 ^ 128 - 2 ^ 103 - 2 ^ 74 : ℚ) < 2 ^ (128 : Int) := by norm_num
    _ ≤ 2 ^ (971 : Int) := hpow
    _ ≤ (2 ^ 53 - 1 / 2) * 2 ^ (971 : Int) :=
        le_mul_of_one_le_left (by positivity) (by norm_num)

/-- **BOTH ROUNDINGS** stay finite below the middle between the end of the range of
    singles and the double in front of it. -/
theorem RoundsTo.isFinite_convert_iff (hv : binary64.RoundsTo c e v)
    (h : binary64.Canonical c e) (negative : Bool) :
    ((Binary.finite negative c e h).convert : Binary32).isFinite = true
      ↔ v < 2 ^ 128 - 2 ^ 103 - 2 ^ 74 := by
  have hend : binary64.Canonical 9007198986305536 75 := by decide
  have hhalf : binary64.halfBelow 9007198986305536 75 = 1 / 2 := if_neg (by decide)
  have hbegin : ((9007198986305536 : Nat) - binary64.halfBelow 9007198986305536 75) * 2 ^ (75 : Int)
      = (2 ^ 128 - 2 ^ 103 - 2 ^ 74 : ℚ) := by
    rw [hhalf]
    norm_num
  rw [(Binary.rounds_convert proper_binary32 h negative).isFinite_iff (by decide),
    overflow_binary32, ← not_le, hv.le_iff h hend (by decide) (by decide), hbegin, not_le]

end Format

/-! ## What is narrowed -/

namespace Convert

theorem readSingle_of_spells {s : List Char} (h : Literal.Spells s x) :
    readSingle s = if x.isFinite = true ∧ (x.convert : Binary32).isInfinite = true
      then .error "value out of range" else .ok x.convert := by
  rw [readSingle, readDouble_eq_ok_iff.mpr h]
  rfl

/-- **A DECIMAL LITERAL** becomes a finite single below the end of the range of both
    roundings and is refused from there on, but only as far as there are doubles: what
    is too large even for them is infinite. -/
theorem single_of_decimal {sign s : List Char} {m : Nat} {k : Int} (hsign : IsSign sign negative)
    (hs : IsDecimal s m k) (hw : w.render = sign ++ s) :
    ((m : ℚ) * 10 ^ k < 2 ^ 128 - 2 ^ 103 - 2 ^ 74
      → ∃ c e, Format.binary64.RoundsTo c e (m * 10 ^ k)
        ∧ ∃ y : Binary32, y.isFinite = true ∧ Binary.Rounds negative (c * 2 ^ e) y
          ∧ single w = .ok y)
    ∧ (2 ^ 128 - 2 ^ 103 - 2 ^ 74 ≤ (m : ℚ) * 10 ^ k → (m : ℚ) * 10 ^ k < 2 ^ 1024 - 2 ^ 970
      → single w = .error (.parse "f32" w.text "value out of range"))
    ∧ (2 ^ 1024 - 2 ^ 970 ≤ (m : ℚ) * 10 ^ k → single w = .ok (.infinite negative)) := by
  have hread := readSingle_of_spells
    (hw ▸ .mk hsign (.decimal hs) : Literal.Spells w.render (Binary.ofDecimal negative m k))
  have hrounds := Binary.rounds_ofDecimal Format.proper_binary64 negative m k
  simp only [single, scalar_eq_ok_iff, scalar_eq_error_iff, hread]
  rw [← Format.overflow_binary64]
  generalize (Binary.ofDecimal negative m k : Binary64) = x at hrounds ⊢
  generalize (m : ℚ) * 10 ^ k = v at hrounds ⊢
  cases hrounds with
  | @finite c e h hv =>
      have hfinite := hv.isFinite_convert_iff h negative
      have hnarrow := Binary.rounds_convert Format.proper_binary32 h negative
      refine ⟨fun hlt => ?_, fun hle _ => ?_, fun hle => ?_⟩
      · have hy := hfinite.mpr hlt
        refine ⟨c, e, hv, _, hy, hnarrow, if_neg ?_⟩
        rintro ⟨-, hover⟩
        exact hnarrow.isInfinite_iff.mp hover hy
      · refine ⟨_, if_pos ⟨rfl, ?_⟩, rfl⟩
        exact hnarrow.isInfinite_iff.mpr (mt hfinite.mp (not_lt.mpr hle))
      · exact absurd (hv.lt_overflow h (by decide)) (not_lt.mpr hle)
  | infinite hv =>
      refine ⟨fun hlt => ?_, fun _ hlt => ?_, fun _ => ?_⟩
      · exact absurd (hlt.trans Format.range_lt_overflow) (not_lt.mpr hv)
      · exact absurd hv (not_le.mpr hlt)
      · exact if_neg fun h => nomatch h.1

/-- The whole number where the range ends, the one in front of it, and a literal that is
    too large for doubles. -/
theorem single_of_decimal_ends :
    single (.string "-340282356779733642748073463979561713664")
      = .error (.parse "f32" "-340282356779733642748073463979561713664" "value out of range")
    ∧ (∃ y : Binary32, y.isFinite = true
      ∧ single (.string "340282356779733642748073463979561713663") = .ok y)
    ∧ single (.string "+1e400") = .ok (.infinite false) := by
  have hend : IsDecimal "340282356779733642748073463979561713664".toList
      340282356779733642748073463979561713664 0 := decimal?_eq_some_iff.mp (by decide +kernel)
  have hfront : IsDecimal "340282356779733642748073463979561713663".toList
      340282356779733642748073463979561713663 0 := decimal?_eq_some_iff.mp (by decide +kernel)
  have hlarge : IsDecimal "1e400".toList 1 400 := decimal?_eq_some_iff.mp (by decide +kernel)
  obtain ⟨-, hrefused, -⟩ := single_of_decimal
    (w := .string "-340282356779733642748073463979561713664") .minus hend rfl
  obtain ⟨hkept, -, -⟩ := single_of_decimal
    (w := .string "340282356779733642748073463979561713663") .none hfront rfl
  obtain ⟨-, -, hinfinite⟩ := single_of_decimal (w := .string "+1e400") .plus hlarge rfl
  refine ⟨hrefused (by norm_num) ?_, ?_, hinfinite ?_⟩
  · rw [← Format.overflow_binary64]
    exact lt_of_eq_of_lt (by norm_num) Format.range_lt_overflow
  · obtain ⟨c, e, -, y, hy, -, hsingle⟩ := hkept (by norm_num)
    exact ⟨y, hy, hsingle⟩
  · have hpow := Binary.zpow_two_le_decimal (m := 1) (x := 400) (k := 1024) (by decide) (by decide)
      (by decide)
    calc (2 : ℚ) ^ 1024 - 2 ^ 970 ≤ 2 ^ 1024 := sub_le_self _ (by positivity)
      _ = 2 ^ (1024 : Int) := (zpow_natCast 2 1024).symm
      _ ≤ (1 : Nat) * 10 ^ (400 : Int) := hpow

end Convert

end Fixture
