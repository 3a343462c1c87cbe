import Fixture.Value
import Fixture.Proofs.Rounding

/-! # Values through documents

    A number leaves as an integer of a document where it is whole and small enough,
    and as a double otherwise; it comes back as the double nearest to what stands in
    the document.  An integer is the number that it was taken from, and so it comes
    back, except that the sign of a zero is lost.  What is not finite has no place in
    a document and becomes null. -/

namespace Fixture

variable {f : Format} {n : Int}

/-! ## Numbers and the reals that they stand for -/

namespace Binary

variable {x y : Binary f}

/-- The real that a finite number stands for. -/
def toRat? : Binary f → Option ℚ
  | .finite negative c e _ => some ((if negative then -(c : ℚ) else c) * 2 ^ e)
  | _ => none

/-- Equal as numbers are compared: zeros whatever their signs, and what is not a number
    not even with itself. -/
inductive Equals : Binary f → Binary f → Prop
  | infinite (negative : Bool) : Equals (.infinite negative) (.infinite negative)
  | finite {x y : Binary f} {v : ℚ} (hx : x.toRat? = some v) (hy : y.toRat? = some v) :
      Equals x y

/-- A finite number has a value. -/
theorem exists_toRat?_of_isFinite (h : x.isFinite = true) : ∃ v, x.toRat? = some v := by
  cases x with
  | finite negative c e canonical => exact ⟨_, rfl⟩
  | nan => cases h
  | infinite negative => cases h

theorem isFinite_of_toRat? {v : ℚ} (h : x.toRat? = some v) : x.isFinite = true := by
  cases x with
  | finite negative c e canonical => rfl
  | nan => cases h
  | infinite negative => cases h

/-- A coefficient over a power of two is whole exactly if no bit is behind the point. -/
theorem mul_zpow_two_eq_iff {c : Nat} {e : Int} :
    (c : ℚ) * 2 ^ e = n ↔ if 0 ≤ e then ((c * 2 ^ e.toNat : Nat) : Int) = n
      else c % 2 ^ (-e).toNat = 0 ∧ ((c / 2 ^ (-e).toNat : Nat) : Int) = n := by
  split
  · rename_i he
    obtain ⟨k, rfl⟩ := Int.eq_ofNat_of_zero_le he
    rw [zpow_natCast, Int.toNat_natCast]
    norm_cast
  · rename_i he
    obtain ⟨k, rfl⟩ := Int.exists_eq_neg_ofNat (Int.le_of_not_le he)
    have hpos : 0 < 2 ^ k := Nat.pow_pos (by decide)
    have hwhole : (c : ℚ) * 2 ^ (-(k : Int)) = n ↔ (c : Int) = n * (2 ^ k : Nat) := by
      rw [zpow_neg, zpow_natCast, ← div_eq_mul_inv, div_eq_iff (by positivity)]
      norm_cast
    rw [hwhole, Int.neg_neg, Int.toNat_natCast]
    generalize 2 ^ k = place at hpos
    constructor
    · intro h
      have hzero : c % place = 0 := by
        have : (c : Int) % place = 0 := by rw [h, Int.mul_emod_left]
        exact_mod_cast this
      refine ⟨hzero, ?_⟩
      rw [Int.natCast_ediv, h, Int.mul_ediv_cancel _ (by omega)]
    · rintro ⟨hzero, rfl⟩
      exact_mod_cast (Nat.div_mul_cancel (Nat.dvd_of_mod_eq_zero hzero)).symm

/-- A number has no fractional part exactly if the real is a whole one. -/
theorem toInt?_eq_some_iff : x.toInt? = some n ↔ x.toRat? = some (n : ℚ) := by
  cases x with
  | nan => exact iff_of_false (fun h => nomatch h) (fun h => nomatch h)
  | infinite negative => exact iff_of_false (fun h => nomatch h) (fun h => nomatch h)
  | finite negative c e canonical =>
      have hsign : (if negative = true then -(c : ℚ) else c) * 2 ^ e = n
          ↔ (c : ℚ) * 2 ^ e = (if negative = true then -n else n : Int) := by
        cases negative with
        | true => simp [neg_eq_iff_eq_neg]
        | false => simp
      rw [toRat?, Option.some_inj, hsign, mul_zpow_two_eq_iff, toInt?]
      cases negative <;> split <;> simp [neg_eq_iff_eq_neg]

/-- **WHOLE NUMBERS ARE KEPT** by integers, except for the sign of zero. -/
theorem ofInt_of_toRat? (hf : f.Proper) (h : x.toRat? = some (n : ℚ)) :
    (ofInt n : Binary f).toRat? = some (n : ℚ)
    ∧ (ofInt n = x ∨ x.isZero = true ∧ x.isNegative = true) := by
  cases x with
  | nan => cases h
  | infinite negative => cases h
  | finite negative c e canonical =>
      have hreal := Option.some.inj h
      have hpow : (0 : ℚ) < 2 ^ e := by positivity
      have hvalue : (n.natAbs : ℚ) = c * 2 ^ e := by
        rw [Nat.cast_natAbs, Int.cast_abs, ← hreal, abs_mul, abs_of_pos hpow]
        split
        · rw [abs_neg, Nat.abs_cast]
        · rw [Nat.abs_cast]
      have hof : (ofInt n : Binary f) = .finite (n < 0) c e canonical :=
        (rounds_ofInt hf n).unique (.finite canonical (hvalue ▸ f.roundsTo_self c e)) hf.precision
      by_cases hc : c = 0
      · subst hc
        obtain rfl : n = 0 := by simpa using hvalue
        refine ⟨by simp [hof, toRat?], ?_⟩
        cases negative with
        | true => exact Or.inr ⟨rfl, rfl⟩
        | false => exact Or.inl hof
      · have hcpos : (0 : ℚ) < c := by exact_mod_cast Nat.pos_of_ne_zero hc
        have hsign : decide (n < 0) = negative := by
          cases negative with
          | true =>
              have hneg : (n : ℚ) < 0 :=
                hreal ▸ mul_neg_of_neg_of_pos (neg_lt_zero.mpr hcpos) hpow
              exact decide_eq_true (by exact_mod_cast hneg)
          | false =>
              have hnonneg : (0 : ℚ) ≤ n := hreal ▸ mul_nonneg hcpos.le hpow.le
              exact decide_eq_false (not_lt.mpr (by exact_mod_cast hnonneg))
        rw [hsign] at hof
        exact ⟨hof ▸ h, Or.inl hof⟩

end Binary

/-! ## Numbers of documents -/

namespace Value

/-- Equal as values are compared: numbers as numbers, everything else to the leaf. -/
inductive Equals : Value → Value → Prop
  | null : Equals .null .null
  | bool (b : Bool) : Equals (.bool b) (.bool b)
  | number {x y : Binary64} (h : x.Equals y) : Equals (.number x) (.number y)
  | string (s : String) : Equals (.string s) (.string s)
  | array (items : List Json) : Equals (.array items) (.array items)
  | object (members : Members) : Equals (.object members) (.object members)

variable {x : Binary64} {v : Value}

/-- A number that goes into a document as an integer has its value. -/
theorem documentInteger?_eq_some {m : JsonNumber} (h : documentInteger? x = some m) :
    ∃ n hn, m = .integer n hn ∧ x.toRat? = some (n : ℚ) := by
  rw [documentInteger?, Option.bind_eq_bind, Option.bind_eq_some_iff] at h
  obtain ⟨n, hn, h⟩ := h
  split at h
  · rw [JsonNumber.ofInt?] at h
    split at h
    · rename_i hrange
      exact ⟨n, hrange, (Option.some.inj h).symm, Binary.toInt?_eq_some_iff.mp hn⟩
    · cases h
  · cases h

/-- A finite number leaves as an integer or as itself. -/
theorem numberToJson_of_isFinite (h : x.isFinite = true) :
    (∃ n hn, numberToJson x = .number (.integer n hn) ∧ x.toRat? = some (n : ℚ))
    ∨ numberToJson x = .number (.real x h) := by
  rw [numberToJson]
  cases hinteger : documentInteger? x with
  | some m =>
      obtain ⟨n, hn, rfl, hx⟩ := documentInteger?_eq_some hinteger
      exact Or.inl ⟨n, hn, rfl, hx⟩
  | none =>
      refine Or.inr ?_
      rw [JsonNumber.ofReal?, dif_pos h]

/-- A number that is not finite is null in a document. -/
theorem numberToJson_of_not_isFinite (h : x.isFinite = false) : numberToJson x = .null := by
  cases x with
  | nan => rfl
  | infinite negative => rfl
  | finite negative c e canonical => cases h

/-- A number comes back equal, and as it was unless it is negative zero. -/
theorem ofJson_numberToJson (h : x.isFinite = true) :
    (ofJson (numberToJson x)).Equals (.number x)
    ∧ (ofJson (numberToJson x) = .number x ∨ x.isZero = true ∧ x.isNegative = true) := by
  obtain ⟨n, hn, hinteger, hx⟩ | hreal := numberToJson_of_isFinite h
  · obtain ⟨hof, hsame⟩ := Binary.ofInt_of_toRat? Format.proper_binary64 hx
    rw [hinteger]
    exact ⟨.number (.finite hof hx), hsame.imp_left (congrArg Value.number)⟩
  · obtain ⟨v, hv⟩ := Binary.exists_toRat?_of_isFinite h
    rw [hreal]
    exact ⟨.number (.finite hv hv), Or.inl rfl⟩

/-- **VALUES SURVIVE DOCUMENTS**: what is put into a document comes back equal, and
    unchanged unless it is negative zero, whose sign is lost.  Only a number that is not
    finite does not come back; there is nothing but null for it. -/
theorem ofJson_toJson (v : Value) :
    ((∀ x, v = .number x → x.isFinite = true)
      → (ofJson v.toJson).Equals v
        ∧ (ofJson v.toJson = v ∨ ∃ x, v = .number x ∧ x.isZero = true ∧ x.isNegative = true))
    ∧ (∀ x, v = .number x → x.isFinite = false → v.toJson = .null ∧ ofJson v.toJson = .null) := by
  cases v with
  | null => exact ⟨fun _ => ⟨.null, Or.inl rfl⟩, fun x hx => nomatch hx⟩
  | bool b => exact ⟨fun _ => ⟨.bool b, Or.inl rfl⟩, fun x hx => nomatch hx⟩
  | string s => exact ⟨fun _ => ⟨.string s, Or.inl rfl⟩, fun x hx => nomatch hx⟩
  | array items => exact ⟨fun _ => ⟨.array items, Or.inl rfl⟩, fun x hx => nomatch hx⟩
  | object members => exact ⟨fun _ => ⟨.object members, Or.inl rfl⟩, fun x hx => nomatch hx⟩
  | number x =>
      constructor
      · intro hfinite
        obtain ⟨hequal, hsame⟩ := ofJson_numberToJson (hfinite x rfl)
        exact ⟨hequal, hsame.imp_right fun h => ⟨x, rfl, h⟩⟩
      · rintro y hy hinfinite
        obtain rfl := Value.number.inj hy
        have hnull := numberToJson_of_not_isFinite hinfinite
        exact ⟨hnull, congrArg ofJson hnull⟩

/-- The numbers on the two sides of the bound, the least one above zero, negative zero, and
    what is not a number. -/
theorem ofJson_toJson_ends :
    let back (x : Binary64) : Value := ofJson (Value.number x).toJson
    back (.ofInt 8999999999999999) = .number (.ofInt 8999999999999999)
    ∧ back (.ofInt (-9000000000000000)) = .number (.ofInt (-9000000000000000))
    ∧ back (.ofDecimal false 5 (-324)) = .number (.ofDecimal false 5 (-324))
    ∧ (back (.ofDecimal true 0 0)).Equals (.number (.ofDecimal true 0 0))
    ∧ back .nan = .null := by
  have hfinite : ∀ {x : Binary64}, x.isFinite = true
      → ∀ y, Value.number x = .number y → y.isFinite = true :=
    fun h y hy => Value.number.inj hy ▸ h
  have hkept : ∀ {x : Binary64}, x.isFinite = true → x.isZero = false
      → ofJson (Value.number x).toJson = .number x := by
    intro x h hzero
    refine ((ofJson_toJson (.number x)).1 (hfinite h)).2.resolve_right ?_
    rintro ⟨y, hy, hyzero, -⟩
    rw [← Value.number.inj hy, hzero] at hyzero
    cases hyzero
  refine ⟨hkept ?_ ?_, hkept ?_ ?_, hkept ?_ ?_,
    ((ofJson_toJson (.number _)).1 (hfinite ?_)).1, ((ofJson_toJson (.number .nan)).2 _ rfl rfl).2⟩
    <;> decide +kernel

end Value

end Fixture
