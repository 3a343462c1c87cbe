import Fixture.Number.Style
import Fixture.Proofs.Literals
import Fixture.Proofs.Shortest

/-! # Numbers as they are written

    A style writes a number in full or with an exponent, with or without a point.
    All of these are literals of the grammar, and all of them come to the decimal
    that the style was given.  So in every style numbers are written such that they
    are read back. -/

namespace Fixture

open Literal

variable {f : Format} {s tail : List Char} {d : Decimal} {v : ℚ} {x : Int}

/-! ## Digits -/

namespace Decimal

theorem isDigit_of_mem_digits (d : Decimal) : ∀ c ∈ d.digits, c.isDigit = true :=
  fun _ hc => Nat.isDigit_of_mem_toDigits (by decide) (by decide) hc

theorem digits_ne_nil (d : Decimal) : d.digits ≠ [] := Nat.toDigits_ne_nil

/-- The digits of a decimal come to its coefficient. -/
theorem digitsValue_digits (d : Decimal) : digitsValue d.digits = d.coefficient :=
  Nat.ofDigitChars_ten_toDigits

end Decimal

namespace Literal

/-- Digits that are appended shift those in front of them. -/
theorem digitsValue_append (s t : List Char) :
    digitsValue (s ++ t) = digitsValue s * 10 ^ t.length + digitsValue t := by
  show Nat.ofDigitChars 10 (s ++ t) 0 = _
  rw [Nat.ofDigitChars_append, Nat.ofDigitChars_eq_ofDigitChars_zero, Nat.mul_comm]
  rfl

theorem digitsValue_zeros (n : Nat) : digitsValue (List.replicate n '0') = 0 := by
  show Nat.ofDigitChars 10 (List.replicate n '0') 0 = 0
  rw [Nat.ofDigitChars_replicate_zero, Nat.mul_zero]

theorem isDigit_of_mem_zeros (n : Nat) : ∀ c ∈ List.replicate n '0', c.isDigit = true := by
  intro c hc
  rw [List.eq_of_mem_replicate hc]
  rfl

theorem isDigit_of_mem_append {s t : List Char} (hs : ∀ c ∈ s, c.isDigit = true)
    (ht : ∀ c ∈ t, c.isDigit = true) : ∀ c ∈ s ++ t, c.isDigit = true :=
  fun c hc => (List.mem_append.mp hc).elim (hs c) (ht c)

/-- The text is one of digits that come to the value. -/
def IsDecimalOf (s : List Char) (v : ℚ) : Prop :=
  ∃ m x, IsDecimal s m x ∧ (m : ℚ) * 10 ^ x = v

/-! ## Ways of writing a decimal down -/

/-- Digits in their places: a whole number, or one with places behind the point. -/
inductive IsPositional : List Char → ℚ → Prop
  | whole {ds : List Char} (hne : ds ≠ []) (hds : ∀ c ∈ ds, c.isDigit = true) :
      IsPositional ds (digitsValue ds)
  | point {ds ds' : List Char} (hne : ds ≠ []) (hne' : ds' ≠ [])
      (hds : ∀ c ∈ ds, c.isDigit = true) (hds' : ∀ c ∈ ds', c.isDigit = true) :
      IsPositional (ds ++ '.' :: ds') (digitsValue (ds ++ ds') * 10 ^ (-(ds'.length : Int)))

/-- A number with one digit in front of the point, and a power of ten behind it whose
    sign is always shown and which has at least so many digits. -/
inductive IsScientific (width : Nat) : List Char → ℚ → Int → Prop
  | mk {mantissa ds : List Char} {sign : Char} {v : ℚ} {k : Int}
      (hmantissa : IsPositional mantissa v)
      (hone : (mantissa.takeWhile Char.isDigit).length = 1) (hsign : sign = '+' ∨ sign = '-')
      (hwidth : width ≤ ds.length) (htail : IsExponent ('e' :: sign :: ds) k) :
      IsScientific width (mantissa ++ 'e' :: sign :: ds) (v * 10 ^ k) k

/-- With an exponent behind it a number in its places is a decimal. -/
theorem IsPositional.append (h : IsPositional s v) (htail : IsExponent tail x) :
    IsDecimalOf (s ++ tail) (v * 10 ^ x) := by
  cases h with
  | whole hne hds => exact ⟨_, _, .whole hne hds htail, rfl⟩
  | @point ds ds' hne hne' hds hds' =>
      rw [List.append_assoc, List.cons_append]
      refine ⟨_, _, .point (Or.inl hne) hds hds' htail, ?_⟩
      rw [sub_eq_neg_add, zpow_add₀ (by norm_num), mul_assoc]

/-- A text in positional notation is a decimal of its value. -/
theorem IsPositional.isDecimalOf (h : IsPositional s v) : IsDecimalOf s v := by
  have htext := h.append .none
  rwa [List.append_nil, zpow_zero, mul_one] at htext

theorem IsScientific.isDecimalOf {width : Nat} (h : IsScientific width s v x) :
    IsDecimalOf s v := by
  obtain ⟨hmantissa, -, -, -, htail⟩ := h
  exact hmantissa.append htail

end Literal

/-! ## Texts of decimals -/

namespace Decimal

/-- A number written in full, with or without an idle point behind it. -/
theorem isPositional_whole (h : 0 ≤ d.exponent) (hs : s = [] ∨ s = ['.', '0']) :
    IsPositional (d.positional ++ s) d.value := by
  rw [positional, if_pos h]
  obtain ⟨k, hk⟩ := Int.eq_ofNat_of_zero_le h
  rw [hk, Int.toNat_natCast]
  have hds := isDigit_of_mem_append d.isDigit_of_mem_digits (isDigit_of_mem_zeros k)
  have hne : d.digits ++ List.replicate k '0' ≠ [] :=
    List.append_ne_nil_of_left_ne_nil d.digits_ne_nil _
  have hcoefficient : digitsValue (d.digits ++ List.replicate k '0') = d.coefficient * 10 ^ k := by
    rw [digitsValue_append, digitsValue_zeros, digitsValue_digits, List.length_replicate,
      Nat.add_zero]
  have hvalue : d.value = digitsValue (d.digits ++ List.replicate k '0') := by
    rw [hcoefficient, Decimal.value, hk, zpow_natCast]
    push_cast
    rfl
  rcases hs with rfl | rfl
  · rw [List.append_nil, hvalue]
    exact .whole hne hds
  · have hzero : digitsValue ['0'] = 0 := rfl
    have hidle := IsPositional.point hne (List.cons_ne_nil '0' []) hds (isDigit_of_mem_zeros 1)
    rw [digitsValue_append, hzero, List.length_singleton, Nat.add_zero] at hidle
    have hunit : d.value
        = (digitsValue (d.digits ++ List.replicate k '0') * 10 ^ 1 : Nat)
          * 10 ^ (-((1 : Nat) : Int)) := by
      rw [hvalue, zpow_neg, zpow_natCast]
      push_cast
      field_simp
    rw [hunit]
    exact hidle

/-- A decimal written in full comes to its value. -/
theorem isPositional (d : Decimal) : IsPositional d.positional d.value := by
  by_cases h : 0 ≤ d.exponent
  · have := isPositional_whole h (Or.inl rfl)
    rwa [List.append_nil] at this
  · obtain ⟨k, hk⟩ := Int.exists_eq_neg_ofNat (Int.le_of_not_le h)
    have hpos : 0 < k := by omega
    rw [positional, if_neg h, hk, Int.neg_neg, Int.toNat_natCast]
    dsimp only
    split
    · rename_i hplaces
      have hparts := List.take_append_drop (d.digits.length - k) d.digits
      have hds := d.isDigit_of_mem_digits
      have hvalue := d.digitsValue_digits
      have hlength : (d.digits.drop (d.digits.length - k)).length = k := by
        rw [List.length_drop]
        omega
      have hne : d.digits.take (d.digits.length - k) ≠ [] := by
        rw [Ne, List.take_eq_nil_iff]
        exact not_or.mpr ⟨by omega, d.digits_ne_nil⟩
      generalize d.digits.take (d.digits.length - k) = front at *
      generalize d.digits.drop (d.digits.length - k) = behind at *
      rw [← hparts, List.forall_mem_append] at hds
      rw [← hparts] at hvalue
      have hne' : behind ≠ [] := by
        rintro rfl
        exact hpos.ne hlength
      have htext := IsPositional.point hne hne' hds.1 hds.2
      rwa [hvalue, hlength, ← hk] at htext
    · rename_i hplaces
      have hds := isDigit_of_mem_append (isDigit_of_mem_zeros (k - d.digits.length))
        d.isDigit_of_mem_digits
      have hvalue : digitsValue
          (['0'] ++ (List.replicate (k - d.digits.length) '0' ++ d.digits)) = d.coefficient := by
        have hzero : digitsValue ['0'] = 0 := rfl
        rw [digitsValue_append, digitsValue_append, digitsValue_zeros, digitsValue_digits, hzero,
          Nat.zero_mul, Nat.zero_mul, Nat.zero_add, Nat.zero_add]
      have hlength : (List.replicate (k - d.digits.length) '0' ++ d.digits).length = k := by
        rw [List.length_append, List.length_replicate]
        omega
      have hne' := List.append_ne_nil_of_right_ne_nil
        (List.replicate (k - d.digits.length) '0') d.digits_ne_nil
      have htext := IsPositional.point (List.cons_ne_nil '0' []) hne' (isDigit_of_mem_zeros 1) hds
      rwa [hvalue, hlength, ← hk] at htext

/-- The digits with a point after the first. -/
theorem isPositional_mantissa (d : Decimal) :
    IsPositional d.mantissa (d.coefficient * 10 ^ (-((d.digits.length : Int) - 1)))
    ∧ (d.mantissa.takeWhile Char.isDigit).length = 1 := by
  have hds := d.isDigit_of_mem_digits
  have hvalue := d.digitsValue_digits
  rw [mantissa]
  split
  · rename_i hnil
    exact absurd hnil d.digits_ne_nil
  · rename_i c hc
    rw [hc] at hds hvalue ⊢
    have htext := IsPositional.whole (List.cons_ne_nil c []) hds
    rw [hvalue] at htext
    refine ⟨by simpa using htext, ?_⟩
    rw [List.takeWhile_cons_of_pos (hds c (List.mem_cons_self ..))]
    rfl
  · rename_i c cs hne hc
    rw [hc] at hds hvalue ⊢
    obtain ⟨hc', hcs⟩ := List.forall_mem_cons.mp hds
    have hfront : ∀ d ∈ [c], d.isDigit = true := by simpa using hc'
    have htext : IsPositional (c :: '.' :: cs) (digitsValue (c :: cs) * 10 ^ (-(cs.length : Int))) :=
      .point (List.cons_ne_nil c []) hne hfront hcs
    rw [hvalue] at htext
    refine ⟨by simpa using htext, ?_⟩
    rw [List.takeWhile_cons_of_pos hc', List.takeWhile_cons_of_neg (by decide)]
    rfl

end Decimal

namespace Style

/-- An exponent with its sign, padded with zeros. -/
theorem isExponent_exponentText (width : Nat) (k : Int) :
    IsExponent ('e' :: exponentText width k) k := by
  rw [exponentText, List.cons_append]
  generalize hpad : width - (Nat.toDigits 10 k.natAbs).length = pad
  generalize hds : List.replicate pad '0' ++ Nat.toDigits 10 k.natAbs = ds
  have hdigits : ∀ c ∈ ds, c.isDigit = true := by
    rw [← hds]
    exact isDigit_of_mem_append (isDigit_of_mem_zeros pad)
      (⟨k.natAbs, 0⟩ : Decimal).isDigit_of_mem_digits
  have hvalue : digitsValue ds = k.natAbs := by
    rw [← hds, digitsValue_append, digitsValue_zeros, Nat.zero_mul, Nat.zero_add]
    exact (⟨k.natAbs, 0⟩ : Decimal).digitsValue_digits
  have hne : ds ≠ [] := by
    rw [← hds]
    exact List.append_ne_nil_of_right_ne_nil _ Nat.toDigits_ne_nil
  by_cases hneg : k < 0
  · have h := IsExponent.some (Or.inl rfl) .minus hne hdigits
    rw [if_pos rfl, hvalue, show -(k.natAbs : Int) = k by omega] at h
    rwa [if_pos hneg]
  · have h := IsExponent.some (Or.inl rfl) .plus hne hdigits
    rw [if_neg Bool.false_ne_true, hvalue, show (k.natAbs : Int) = k by omega] at h
    rwa [if_neg hneg]

/-- A style that writes it in full does so. -/
theorem isPositional_decimalText {s : Style} (h : s.inFull d.magnitude = true) :
    IsPositional (s.decimalText d) d.value := by
  rw [decimalText, if_pos h]
  split
  · rename_i hpoint
    rw [Bool.and_eq_true_iff, decide_eq_true_iff] at hpoint
    exact Decimal.isPositional_whole hpoint.2 (Or.inr rfl)
  · exact d.isPositional

/-- A style that does not writes an exponent, the magnitude of the decimal. -/
theorem isScientific_decimalText {s : Style} (h : s.inFull d.magnitude = false) :
    IsScientific s.exponentDigits (s.decimalText d) d.value d.magnitude := by
  obtain ⟨hmantissa, hone⟩ := d.isPositional_mantissa
  have htail := isExponent_exponentText s.exponentDigits d.magnitude
  rw [decimalText, h, if_neg Bool.false_ne_true]
  rw [exponentText, List.cons_append] at htail ⊢
  have hsign : (if d.magnitude < 0 then '-' else '+') = '+'
      ∨ (if d.magnitude < 0 then '-' else '+') = '-' := by
    split
    · exact Or.inr rfl
    · exact Or.inl rfl
  have hwidth : s.exponentDigits
      ≤ (List.replicate (s.exponentDigits - (Nat.toDigits 10 d.magnitude.natAbs).length) '0'
        ++ Nat.toDigits 10 d.magnitude.natAbs).length := by
    rw [List.length_append, List.length_replicate]
    omega
  have htext := IsScientific.mk hmantissa hone hsign hwidth htail
  have hexponent : -((d.digits.length : Int) - 1) + d.magnitude = d.exponent := by
    rw [Decimal.magnitude]
    omega
  rwa [mul_assoc, ← zpow_add₀ (by norm_num), hexponent] at htext

/-- **THE TEXT OF A DECIMAL** comes to the decimal, in every style. -/
theorem isDecimalOf_decimalText (s : Style) (d : Decimal) :
    IsDecimalOf (s.decimalText d) d.value := by
  cases h : s.inFull d.magnitude with
  | true => exact (isPositional_decimalText h).isDecimalOf
  | false => exact (isScientific_decimalText h).isDecimalOf

end Style

/-! ## Texts of numbers -/

namespace Style

/-- A finite number is written as a decimal that is rounded to it, zero without an
    exponent. -/
theorem exists_unsignedText (s : Style) (negative : Bool) {c : Nat} {e : Int}
    (h : f.Canonical c e) : ∃ d : Decimal,
      s.unsignedText (.finite negative c e h) = s.decimalText d ∧ f.RoundsTo c e d.value
      ∧ (d.coefficient = 0 → d.exponent = 0) := by
  rw [unsignedText]
  split
  · rename_i hc
    have hself := f.roundsTo_self c e
    refine ⟨⟨0, 0⟩, rfl, ?_, fun _ => rfl⟩
    simpa [hc, Decimal.value] using hself
  · rename_i hc
    exact ⟨_, rfl, shortest_roundsTo f s.tie hc e,
      fun hzero => absurd hzero (coefficient_shortest f s.tie hc e)⟩

/-- **NUMBERS ARE SPELLED OUT**: without its sign the text of a number is a literal that
    comes to the number with it. -/
theorem spellsUnsigned (s : Style) (hf : f.Proper) (x : Binary f) :
    SpellsUnsigned x.isNegative (s.unsignedText x) x := by
  cases x with
  | nan => exact .nan rfl
  | infinite negative => exact .infinite (Or.inl rfl)
  | finite negative c e canonical =>
      obtain ⟨d, htext, hd, -⟩ := s.exists_unsignedText negative canonical
      obtain ⟨m, x, hdecimal, hv⟩ := s.isDecimalOf_decimalText d
      have h : SpellsUnsigned negative _ (Binary.ofDecimal negative m x : Binary f) :=
        .decimal hdecimal
      rwa [Binary.ofDecimal_of_roundsTo canonical hf (hv ▸ hd), ← htext] at h

/-- The text of a number spells it, in every style. -/
theorem spells_text (s : Style) (hf : f.Proper) (x : Binary f) : Spells (s.text x) x := by
  have h := s.spellsUnsigned hf x
  rw [text_eq_append]
  generalize x.isNegative = negative at h ⊢
  cases negative with
  | true => exact .mk .minus h
  | false => exact .mk .none h

/-- **NUMBERS ARE READ BACK** from their texts, in every style. -/
theorem read?_text (s : Style) (hf : f.Proper) (x : Binary f) : Literal.read? (s.text x) = some x :=
  read?_eq_some_iff.mpr (s.spells_text hf x)

end Style

end Fixture
