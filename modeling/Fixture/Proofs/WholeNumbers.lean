import Mathlib.Algebra.Ring.Nat
import Mathlib.Data.List.Range
import Fixture.Convert.Scalar
import Fixture.Proofs.Digits
import Fixture.Proofs.Rounding

/-! # Whole numbers as doubles

    A whole number of a document becomes the nearest double, and what is
    converted is the shortest text of that double.  Up to `2 ^ 53` the double is
    the number itself, a grid of whole decimals is reached before any finer one,
    and the text is that of the number.  Beyond, the text may be that of another
    number. -/

namespace Fixture

/-! ## Decimals without a fraction -/

namespace Decimal

/-- The decimal is a whole number, and has no digits behind the point. -/
structure IsWhole (d : Decimal) (m : Nat) : Prop where
  exponent : 0 ≤ d.exponent
  value : d.coefficient * 10 ^ d.exponent.toNat = m

/-- Zeros at the end may be moved to the exponent. -/
theorem IsWhole.trim {d : Decimal} {m : Nat} (h : d.IsWhole m) (fuel : Nat) :
    (trim fuel d).IsWhole m := by
  induction fuel generalizing d with
  | zero => exact h
  | succ fuel ih =>
      rw [Decimal.trim]
      split
      · rename_i hzero
        obtain ⟨hexponent, hvalue⟩ := h
        have hten : 10 * (d.coefficient / 10) = d.coefficient :=
          Nat.mul_div_cancel' (Nat.dvd_of_mod_eq_zero hzero.1)
        have hnext : (d.exponent + 1).toNat = d.exponent.toNat + 1 := by omega
        refine ih ⟨Int.le_add_one hexponent, ?_⟩
        calc d.coefficient / 10 * 10 ^ (d.exponent + 1).toNat
            = 10 * (d.coefficient / 10) * 10 ^ d.exponent.toNat := by
              rw [hnext, Nat.pow_succ, Nat.mul_comm _ 10, Nat.mul_left_comm, Nat.mul_assoc]
          _ = m := by rw [hten, hvalue]
      · exact h

theorem IsWhole.normal {d : Decimal} {m : Nat} (h : d.IsWhole m) : d.normal.IsWhole m :=
  h.trim _

/-- Zeros behind the digits multiply by powers of ten. -/
theorem toDigits_mul_pow {c : Nat} (hc : 0 < c) (e : Nat) :
    Nat.toDigits 10 (c * 10 ^ e) = Nat.toDigits 10 c ++ List.replicate e '0' := by
  induction e with
  | zero => simp
  | succ e ih =>
      have hpos : 0 < c * 10 ^ e := Nat.mul_pos hc (Nat.pow_pos (by decide))
      have happend := Nat.toDigits_append_toDigits (b := 10) (by decide) hpos
        (show 0 < 10 by decide)
      rw [Nat.toDigits_zero, Nat.add_zero] at happend
      rw [Nat.pow_succ, ← Nat.mul_assoc, Nat.mul_comm _ 10, ← happend, ih, List.append_assoc,
        List.replicate_succ']

variable {d : Decimal} {m : Nat}

/-- The digits of a whole number are those of its decimal, filled up with zeros. -/
theorem IsWhole.toDigits (h : d.IsWhole m) (hm : m ≠ 0) :
    Nat.toDigits 10 m = d.digits ++ List.replicate d.exponent.toNat '0' := by
  obtain ⟨-, rfl⟩ := h
  have hpos : 0 < d.coefficient := by
    refine Nat.pos_of_ne_zero fun hzero => hm ?_
    rw [hzero, Nat.zero_mul]
  exact toDigits_mul_pow hpos _

theorem IsWhole.positional (h : d.IsWhole m) (hm : m ≠ 0) :
    d.positional = Nat.toDigits 10 m := by
  rw [Decimal.positional, if_pos h.exponent, h.toDigits hm]

/-- The magnitude of a whole number is one less than the number of its digits. -/
theorem IsWhole.magnitude (h : d.IsWhole m) (hm : m ≠ 0) :
    d.magnitude = (Nat.toDigits 10 m).length - 1 := by
  have hexponent := h.exponent
  rw [h.toDigits hm, Decimal.magnitude, List.length_append, List.length_replicate]
  omega

end Decimal

/-! ## What rounds to a whole number -/

namespace Rounding

/-- The numbers that round to a whole number, all of which are less than one
    away from it. -/
structure About (r : Rounding) (m : Nat) : Prop where
  value : r.value = m * r.denominator
  below : r.low < r.value ∧ r.value < r.low + r.denominator
  above : r.value < r.high ∧ r.high < r.value + r.denominator

/-- The numbers that round to a whole one whose last binary place is behind the
    point. -/
theorem about_of (f : Format) {m : Nat} (hm : m ≠ 0) (k : Nat) :
    (Rounding.of f (m * 2 ^ k) (-(k : Int))).About m := by
  have hplace : ¬ (2 : Int) ≤ -(k : Int) := by omega
  have hdenominator : Nat.pow 2 (2 - -(k : Int)).toNat = 4 * 2 ^ k := by
    have : (2 - -(k : Int)).toNat = k + 2 := by omega
    rw [this, Nat.pow_eq, Nat.pow_add]
    omega
  have hpos : 0 < 2 ^ k := Nat.pow_pos (by decide)
  have hcoefficient : 0 < m * 2 ^ k := Nat.mul_pos (Nat.pos_of_ne_zero hm) hpos
  rw [Rounding.of]
  simp only [if_neg hplace, hdenominator, Nat.mul_one]
  refine ⟨Nat.mul_left_comm 4 m _, ?_, ?_⟩
  · dsimp only
    split <;> omega
  · dsimp only
    omega

variable {r : Rounding} {m : Nat} {d : Decimal}

/-- A decimal without a fraction that rounds to a whole number is that number. -/
theorem About.isWhole (h : r.About m) (hexponent : 0 ≤ d.exponent) (hd : r.holds d = true) :
    d.IsWhole m := by
  -- Over the common denominator both are multiples of it, less than one apart.
  refine ⟨hexponent, ?_⟩
  obtain ⟨hvalue, hbelow, habove⟩ := h
  generalize hx : d.coefficient * 10 ^ d.exponent.toNat = x
  have hends : r.low ≤ x * r.denominator ∧ x * r.denominator ≤ r.high := by
    simp only [holds, if_pos hexponent, Nat.pow_eq, hx, Nat.mul_one] at hd
    split at hd
    · simpa using hd
    · have := of_decide_eq_true hd
      omega
  have hle : x < m + 1 := by
    refine Nat.lt_of_mul_lt_mul_right (a := r.denominator) ?_
    rw [Nat.add_mul]
    omega
  have hge : m < x + 1 := by
    refine Nat.lt_of_mul_lt_mul_right (a := r.denominator) ?_
    rw [Nat.add_mul]
    omega
  omega

/-- The number itself is in its interval. -/
theorem About.holds_self (h : r.About m) : r.holds ⟨m, 0⟩ = true := by
  obtain ⟨hvalue, hbelow, habove⟩ := h
  have hself : m * 1 * r.denominator = r.value := by rw [Nat.mul_one, hvalue]
  simp only [holds, if_pos (Int.le_refl 0), Nat.mul_one]
  show (if r.closed then decide (r.low ≤ m * 1 * r.denominator
      ∧ m * 1 * r.denominator ≤ r.high)
    else decide (r.low < m * 1 * r.denominator ∧ m * 1 * r.denominator < r.high)) = true
  rw [hself]
  split
  · exact decide_eq_true ⟨Nat.le_of_lt hbelow.1, Nat.le_of_lt habove.1⟩
  · exact decide_eq_true ⟨hbelow.1, habove.1⟩

/-- What is taken on a grid is on the grid and rounds to the number. -/
theorem onGrid?_eq_some {tie : Tie} {g : Int} (h : r.onGrid? tie g = some d) :
    d.exponent = g ∧ r.holds d = true := by
  simp only [onGrid?] at h
  split at h
  · rename_i hlower hupper
    obtain rfl := Option.some.inj h
    exact iteInduction (motive := fun d : Decimal => d.exponent = g ∧ r.holds d = true)
      (fun _ => ⟨rfl, (Bool.and_eq_true_iff.mp hlower).1⟩) fun _ => ⟨rfl, hupper⟩
  · rename_i hlower _
    obtain rfl := Option.some.inj h
    exact ⟨rfl, (Bool.and_eq_true_iff.mp hlower).1⟩
  · rename_i _ hupper
    obtain rfl := Option.some.inj h
    exact ⟨rfl, hupper⟩
  · cases h

/-- A whole number is found on the grid of the whole numbers. -/
theorem About.onGrid?_zero (h : r.About m) (hm : m ≠ 0) (tie : Tie) :
    (r.onGrid? tie 0).isSome = true := by
  have hself := h.holds_self
  have hpos : 0 < r.denominator := by
    have := h.below
    omega
  have hquotient : r.value / (r.denominator * Nat.pow 10 (0 : Int).toNat) = m := by
    rw [h.value, Int.toNat_zero, Nat.pow_eq, Nat.pow_zero, Nat.mul_one,
      Nat.mul_div_cancel m hpos]
  have hlower : (r.holds ⟨m, 0⟩ && m != 0) = true := by
    rw [hself, Bool.true_and, bne_iff_ne]
    exact hm
  simp only [onGrid?, if_pos (Int.le_refl 0), hquotient, hlower]
  cases r.holds ⟨m + 1, 0⟩ <;> rfl

theorem About.magnitude (h : r.About m) (hm : m ≠ 0) :
    r.magnitude = (Nat.toDigits 10 m).length - 1 := by
  have hpos : 0 < r.denominator := by
    have := h.below
    omega
  have hle : r.denominator ≤ r.value := by
    rw [h.value]
    exact Nat.le_mul_of_pos_left _ (Nat.pos_of_ne_zero hm)
  rw [Rounding.magnitude, if_pos hle, h.value, Nat.mul_div_cancel m hpos]

end Rounding

/-! ## The shortest decimal -/

/-- A number below a limit at which something is found bounds the first one. -/
theorem exists_le_of_findSome?_range {α : Type} {f : Nat → Option α} {n i : Nat} {a : α}
    (h : (List.range n).findSome? f = some a) (hfi : (f i).isSome = true) :
    ∃ j ≤ i, f j = some a := by
  obtain ⟨front, j, behind, hrange, hj, hnone⟩ := List.findSome?_eq_some_iff.mp h
  rw [List.range_eq_range', List.range'_eq_append_iff] at hrange
  obtain ⟨k, -, rfl, hbehind⟩ := hrange
  have hjk : j = k := by
    have hhead := congrArg List.head? hbehind
    rw [List.head?_cons, List.head?_range'] at hhead
    split at hhead
    · cases hhead
    · simpa using hhead
  refine ⟨j, Nat.le_of_not_lt fun hlt => ?_, hj⟩
  rw [hnone i (List.mem_range'_1.mpr ⟨Nat.zero_le i, by omega⟩)] at hfi
  cases hfi

/-- **THE SHORTEST DECIMAL** for numbers that round to a whole one of no more
    than seventeen digits has no fraction: the grids of whole numbers come
    first, and on the last of them is the number itself. -/
theorem shortest_isWhole {f : Format} (tie : Tie) {c : Nat} {e : Int} {m : Nat}
    (h : (Rounding.of f c e).About m) (hm : m ≠ 0) (hdigits : m < 10 ^ 17) :
    (shortest f tie c e).IsWhole m := by
  rw [shortest]
  generalize Rounding.of f c e = r at h
  have hlength : (Nat.toDigits 10 m).length ≤ 17 :=
    (Nat.length_toDigits_le_iff (by decide) (by decide)).mpr hdigits
  have hpos : 0 < (Nat.toDigits 10 m).length :=
    List.length_pos_iff.mpr Nat.toDigits_ne_nil
  have hmagnitude := h.magnitude hm
  -- The grids are tried from the coarsest on; the one of step one has an answer.
  have hlast : (r.onGrid? tie (r.magnitude - ((Nat.toDigits 10 m).length - 1 : Nat))).isSome
      = true := by
    have hzero : r.magnitude - ((Nat.toDigits 10 m).length - 1 : Nat) = 0 := by omega
    rw [hzero]
    exact h.onGrid?_zero hm tie
  cases hfound : (List.range 17).findSome? fun n : Nat => r.onGrid? tie (r.magnitude - n) with
  | none =>
      have hnone := List.findSome?_eq_none_iff.mp hfound ((Nat.toDigits 10 m).length - 1)
        (List.mem_range.mpr (by omega))
      rw [hnone] at hlast
      cases hlast
  | some d =>
      obtain ⟨n, hn, hd⟩ := exists_le_of_findSome?_range
        (i := (Nat.toDigits 10 m).length - 1) hfound hlast
      obtain ⟨hexponent, hholds⟩ := Rounding.onGrid?_eq_some hd
      exact (h.isWhole (by omega) hholds).normal

/-! ## Doubles -/

namespace Binary

/-- Below `2 ^ 53` whole numbers are doubles. -/
theorem ofInt_of_lt {n : Int} (hn : n ≠ 0) (h : n.natAbs < 2 ^ 53) :
    ∃ (k : Nat) (canonical : _), (ofInt n : Binary64)
      = .finite (n < 0) (n.natAbs * 2 ^ k) (-(k : Int)) canonical := by
  have hrounds := rounds_ofInt Format.proper_binary64 n
  have hm : n.natAbs ≠ 0 := Int.natAbs_ne_zero.mpr hn
  generalize n.natAbs = m at h hm hrounds ⊢
  have hlog : m.log2 ≤ 52 := Nat.le_of_lt_succ ((Nat.log2_lt hm).mpr h)
  -- The leading bit is moved up to the top of the coefficient by `k` places.
  obtain ⟨k, hk⟩ := Nat.exists_eq_add_of_le hlog
  have hlow : 2 ^ 52 ≤ m * 2 ^ k := by
    rw [hk, Nat.pow_add]
    exact Nat.mul_le_mul_right _ (Nat.log2_self_le hm)
  have hhigh : m * 2 ^ k < 2 ^ 53 := by
    have hpower : 2 ^ 53 = 2 ^ (m.log2 + 1) * 2 ^ k := by
      rw [← Nat.pow_add]
      congr 1
      omega
    rw [hpower]
    exact Nat.mul_lt_mul_of_pos_right Nat.lt_log2_self (Nat.pow_pos (by decide))
  have hcanonical : Format.binary64.Canonical (m * 2 ^ k) (-(k : Int)) := by
    refine ⟨hhigh, ?_, ?_, Or.inr hlow⟩
    · show (-1074 : Int) ≤ _
      omega
    · show _ ≤ (971 : Int)
      omega
  have hself := Format.binary64.roundsTo_self (m * 2 ^ k) (-(k : Int))
  have hvalue : ((m * 2 ^ k : Nat) : ℚ) * 2 ^ (-(k : Int)) = m := by simp
  rw [hvalue] at hself
  exact ⟨k, hcanonical, hrounds.unique (.finite hcanonical hself) Format.proper_binary64.precision⟩

end Binary

/-! ## Texts of doubles -/

namespace Binary

variable {f : Format}

/-- Rounding keeps the sign. -/
theorem isNegative_ofScaled (negative : Bool) (c : Nat) (e : Int) :
    (ofScaled negative c e : Binary f).isNegative = negative := by
  rw [ofScaled]
  split <;> rfl

theorem isNegative_ofInt_iff {n : Int} : (ofInt n : Binary f).isNegative = true ↔ n < 0 := by
  rw [ofInt, ofQuotient]
  split
  · rw [isNegative_ofScaled, decide_eq_true_iff]
  · dsimp only
    split <;> rw [isNegative_ofScaled, decide_eq_true_iff]

end Binary

namespace Style

/-- Only the sign is put in front of the text of a number. -/
theorem text_eq_append (s : Style) {f : Format} (x : Binary f) :
    s.text x = (if x.isNegative then ['-'] else []) ++ s.unsignedText x := by
  rw [text]
  cases x.isNegative <;> rfl

/-- The sign of a whole number is that of the double. -/
theorem text_ofInt_eq_append (s : Style) (f : Format) (n : Int) :
    s.text (Binary.ofInt n : Binary f)
      = (if n < 0 then ['-'] else []) ++ s.unsignedText (Binary.ofInt n : Binary f) := by
  rw [text_eq_append]
  simp only [Binary.isNegative_ofInt_iff]

/-- No point is shown behind a whole number. -/
theorem decimalText_display (d : Decimal) :
    display.decimalText d
      = if display.inFull d.magnitude then d.positional
        else d.mantissa ++ 'e' :: exponentText display.exponentDigits d.magnitude :=
  rfl

/-- A whole number of no more than seventeen digits is written as they are. -/
theorem decimalText_of_isWhole {d : Decimal} {m : Nat} (h : d.IsWhole m) (hm : m ≠ 0)
    (hdigits : m < 10 ^ 17) : display.decimalText d = Nat.toDigits 10 m := by
  have hlength : (Nat.toDigits 10 m).length ≤ 17 :=
    (Nat.length_toDigits_le_iff (by decide) (by decide)).mpr hdigits
  have hfull : display.inFull d.magnitude = true := by
    rw [h.magnitude hm]
    show (decide _ && decide _) = true
    rw [Bool.and_eq_true, decide_eq_true_iff, decide_eq_true_iff]
    omega
  rw [decimalText_display, if_pos hfull, h.positional hm]

/-- **WHOLE NUMBERS UP TO `2 ^ 53`** are written as doubles as they are in
    documents. -/
theorem text_ofInt {n : Int} (h : n.natAbs ≤ 2 ^ 53) :
    display.text (Binary.ofInt n : Binary64)
      = (if n < 0 then ['-'] else []) ++ Nat.toDigits 10 n.natAbs := by
  by_cases hn : n = 0
  · subst hn
    decide +kernel
  rcases Nat.lt_or_eq_of_le h with hlt | heq
  · obtain ⟨k, canonical, hof⟩ := Binary.ofInt_of_lt hn hlt
    have hm : n.natAbs ≠ 0 := Int.natAbs_ne_zero.mpr hn
    have hc : n.natAbs * 2 ^ k ≠ 0 :=
      Nat.mul_ne_zero hm (Nat.ne_of_gt (Nat.pow_pos (by decide)))
    have hdigits : n.natAbs < 10 ^ 17 := Nat.lt_trans hlt (by decide)
    have hwhole := shortest_isWhole display.tie
      (Rounding.about_of .binary64 hm k) hm hdigits
    rw [text_ofInt_eq_append, hof, unsignedText, if_neg hc,
      decimalText_of_isWhole hwhole hm hdigits]
  · obtain rfl | rfl : n = 2 ^ 53 ∨ n = -2 ^ 53 := by omega
    · decide +kernel
    · decide +kernel

/-- The text of a decimal begins with a digit. -/
theorem exists_digit_decimalText (d : Decimal) :
    ∃ c s, display.decimalText d = c :: s ∧ c.isDigit = true := by
  obtain ⟨c, cs, hdigits⟩ := List.exists_cons_of_ne_nil
    (Nat.toDigits_ne_nil (n := d.coefficient) (b := 10))
  have hc : c.isDigit = true :=
    Nat.isDigit_of_mem_toDigits (by decide) (by decide) (hdigits ▸ List.mem_cons_self ..)
  rw [decimalText_display]
  split
  · rw [Decimal.positional, Decimal.digits, hdigits]
    split
    · exact ⟨c, _, rfl, hc⟩
    · dsimp only
      split
      · rename_i hplaces
        obtain ⟨k, hk⟩ := Nat.exists_eq_add_of_lt (Nat.sub_pos_of_lt hplaces)
        rw [Nat.zero_add] at hk
        rw [hk]
        exact ⟨c, _, rfl, hc⟩
      · exact ⟨'0', _, rfl, rfl⟩
  · rw [Decimal.mantissa, Decimal.digits, hdigits]
    cases cs with
    | nil => exact ⟨c, _, rfl, hc⟩
    | cons c' cs => exact ⟨c, _, rfl, hc⟩

/-- The text of a number without its sign begins with no sign. -/
theorem unsignedText_ne_cons {f : Format} (x : Binary f) {c : Char} (hc : c = '+' ∨ c = '-')
    (s : List Char) : display.unsignedText x ≠ c :: s := by
  have hdecimal : ∀ d : Decimal, display.decimalText d ≠ c :: s := by
    intro d h
    obtain ⟨c', s', htext, hdigit⟩ := exists_digit_decimalText d
    obtain rfl := (List.cons.inj (htext.symm.trans h)).1
    rcases hc with rfl | rfl <;> cases hdigit
  cases x with
  | nan => rcases hc with rfl | rfl <;> exact fun h => nomatch h
  | infinite => rcases hc with rfl | rfl <;> exact fun h => nomatch h
  | finite negative c e canonical =>
      rw [unsignedText]
      split
      · exact hdecimal _
      · exact hdecimal _

/-- A decimal in digits alone has no fraction, and no zero in front. -/
theorem decimalText_of_digits {d : Decimal} {m : Nat} (hm : m ≠ 0)
    (h : ∀ c ∈ display.decimalText d, c.isDigit = true)
    (hvalue : Nat.ofDigitChars 10 (display.decimalText d) 0 = m) :
    display.decimalText d = Nat.toDigits 10 m := by
  rw [decimalText_display] at h hvalue ⊢
  split
  · rename_i hfull
    rw [if_pos hfull] at h hvalue
    by_cases hexponent : 0 ≤ d.exponent
    · rw [Decimal.positional, if_pos hexponent, Decimal.digits, Nat.ofDigitChars_append,
        Nat.ofDigitChars_ten_toDigits, Nat.ofDigitChars_replicate_zero, Nat.mul_comm] at hvalue
      exact Decimal.IsWhole.positional ⟨hexponent, hvalue⟩ hm
    · have hpoint : '.' ∈ d.positional := by
        rw [Decimal.positional, if_neg hexponent]
        dsimp only
        split <;> simp
      cases h '.' hpoint
  · rename_i hfull
    rw [if_neg hfull] at h
    cases h 'e' (List.mem_append_right _ (List.mem_cons_self ..))

/-- A text of digits alone is the digits of what it comes to. -/
theorem unsignedText_of_digits {f : Format} {x : Binary f} {m : Nat} (hm : m ≠ 0)
    (h : ∀ c ∈ display.unsignedText x, c.isDigit = true)
    (hvalue : Nat.ofDigitChars 10 (display.unsignedText x) 0 = m) :
    display.unsignedText x = Nat.toDigits 10 m := by
  cases x with
  | nan => cases h 'N' (by rw [unsignedText]; decide)
  | infinite negative => cases h 'i' (by rw [unsignedText]; decide)
  | finite negative c e canonical =>
      rw [unsignedText] at h hvalue ⊢
      split at h <;> rename_i hc
      · rw [if_pos hc] at hvalue ⊢
        exact decimalText_of_digits hm h hvalue
      · rw [if_neg hc] at hvalue ⊢
        exact decimalText_of_digits hm h hvalue

/-- **A DOUBLE THAT SPELLS A NUMBER** it was rounded from is written as that
    number is in documents. -/
theorem text_of_spells {t : IntType} {n : Int} {f : Format}
    (h : t.Spells (display.text (Binary.ofInt n : Binary f)) n) (hn : n ≠ 0) :
    display.text (Binary.ofInt n : Binary f)
      = (if n < 0 then ['-'] else []) ++ Nat.toDigits 10 n.natAbs := by
  have hm : n.natAbs ≠ 0 := Int.natAbs_ne_zero.mpr hn
  rw [text_ofInt_eq_append] at h ⊢
  generalize (Binary.ofInt n : Binary f) = x at h ⊢
  by_cases hneg : n < 0
  · rw [if_pos hneg, List.singleton_append] at h
    obtain ⟨-, -, hdigits, hvalue⟩ := IntType.spells_minus_iff.mp h
    rw [unsignedText_of_digits hm hdigits (by omega)]
  · rw [if_neg hneg, List.nil_append] at h
    rw [IntType.spells_unsigned_iff (fun _ => unsignedText_ne_cons x (Or.inl rfl) _)
      (fun _ => unsignedText_ne_cons x (Or.inr rfl) _)] at h
    obtain ⟨-, hdigits, hvalue⟩ := h
    rw [unsignedText_of_digits hm hdigits (by rw [hvalue, Int.natAbs_natCast])]

end Style

/-! ## Whole numbers of documents -/

namespace Convert

/-- **WHOLE NUMBERS OF DOCUMENTS**: the digits of a number of a type are
    converted to that number.  What a document gives for the number is converted
    to it exactly if the text of the nearest double is those digits, and that is
    so up to `2 ^ 53`. -/
theorem int_ofJson {t : IntType} {n : Int} (ht : t.least ≤ n ∧ n ≤ t.greatest)
    (hn : IntType.i64.least ≤ n ∧ n ≤ IntType.u64.greatest) :
    int t (.string (String.ofList (JsonNumber.integer n hn).text)) = .ok n
    ∧ (int t (Value.ofJson (.number (.integer n hn))) = .ok n
      ↔ (Value.ofJson (.number (.integer n hn))).text
        = String.ofList (JsonNumber.integer n hn).text)
    ∧ (n.natAbs ≤ 2 ^ 53 → int t (Value.ofJson (.number (.integer n hn))) = .ok n) := by
  have hspells : t.Spells (JsonNumber.integer n hn).text n := by
    refine JsonNumber.spells_text t n hn fun hneg => ?_
    cases t <;> first | rfl | exact absurd ht.1 (Int.not_le.mpr hneg)
  have hsmall : n.natAbs ≤ 2 ^ 53
      → (Value.ofJson (.number (.integer n hn))).render = (JsonNumber.integer n hn).text :=
    Style.text_ofInt
  refine ⟨?_, ?_, ?_⟩
  · rw [int_eq_ok_iff, Value.render, String.toList_ofList]
    exact ⟨hspells, ht⟩
  · rw [int_eq_ok_iff, Value.text, String.ofList_inj]
    constructor
    · -- Digits and nothing else leave no room for a point, an exponent or zeros
      -- in front; only zero itself is written with a leading zero.
      rintro ⟨h, -⟩
      by_cases hzero : n = 0
      · exact hsmall (by rw [hzero]; decide)
      · exact Style.text_of_spells h hzero
    · intro h
      rw [h]
      exact ⟨hspells, ht⟩
  · intro h
    rw [int_eq_ok_iff, hsmall h]
    exact ⟨hspells, ht⟩

/-- The last number up to which all are kept, the next one that is, and the
    least number of another type. -/
theorem int_ofJson_kept :
    let node (n : Int) (hn : IntType.i64.least ≤ n ∧ n ≤ IntType.u64.greatest) : Value :=
      Value.ofJson (.number (.integer n hn))
    int .u64 (node 9007199254740992 (by decide)) = .ok 9007199254740992
      ∧ int .i64 (node 9007199254740994 (by decide)) = .ok 9007199254740994
      ∧ int .i8 (.string "-128") = .ok (-128) := by
  intro node
  obtain ⟨-, -, hsmall⟩ :=
    int_ofJson (t := .u64) (n := 9007199254740992) (by decide) (by decide)
  obtain ⟨-, hiff, -⟩ :=
    int_ofJson (t := .i64) (n := 9007199254740994) (by decide) (by decide)
  obtain ⟨htyped, -⟩ := int_ofJson (t := .i8) (n := -128) (by decide) (by decide)
  exact ⟨hsmall (by decide), hiff.mpr (by decide +kernel), htyped⟩

/-- A number of 54 bits that a document gives its neighbour for. -/
theorem int_ofJson_rounded :
    int .i64 (.string "9007199254740993") = .ok 9007199254740993
      ∧ int .i64 (Value.ofJson (.number (.integer 9007199254740993 (by decide))))
        = .ok 9007199254740992 := by
  decide +kernel

end Convert

end Fixture
