import Fixture.Convert.Scalar
import Fixture.Json.Basic
import Fixture.Proofs.Loops

/-! # Whole numbers in decimal digits

    Which texts are read as which whole numbers.  A text is read into 64 bits and
    then narrowed, and a step beyond the limit ends the reading early.  Still the
    outcome depends on nothing but the number that the text spells, however many
    digits it has: it is that of narrowing the number itself. -/

namespace Fixture

namespace IntType

variable {t : IntType} {s ds : List Char} {n : Int}

/-! ## Digits -/

/-- What digits have come to never gets less by more of them. -/
theorem le_ofDigitChars (acc : Nat) (s : List Char) : acc ≤ Nat.ofDigitChars 10 s acc := by
  induction s generalizing acc with
  | nil => exact Nat.le_refl acc
  | cons c s ih =>
      rw [Nat.ofDigitChars_cons]
      refine Nat.le_trans ?_ (ih _)
      omega

/-- **DIGITS** are read to their end, or come to more than the limit on the way, and then
    they do so at their end too. -/
theorem readDigits_of_digits {limit acc : Nat} {beyond : Fault} (hacc : acc ≤ limit)
    (hds : ∀ c ∈ ds, c.isDigit = true) :
    readDigits limit beyond acc ds
      = if limit < Nat.ofDigitChars 10 ds acc then .error beyond
        else .ok (Nat.ofDigitChars 10 ds acc) := by
  induction ds generalizing acc with
  | nil => rw [readDigits, Nat.ofDigitChars_nil, if_neg (Nat.not_lt_of_le hacc)]
  | cons c ds ih =>
      obtain ⟨hc, hds⟩ := List.forall_mem_cons.mp hds
      rw [readDigits, Nat.ofDigitChars_cons, if_pos hc]
      dsimp only
      split
      · rename_i hbeyond
        rw [if_pos (Nat.lt_of_lt_of_le hbeyond (le_ofDigitChars _ ds))]
      · rename_i hnext
        exact ih (Nat.le_of_not_lt hnext) hds

/-- Only digits are read, and to the number that they come to. -/
theorem digits_of_readDigits {limit acc m : Nat} {beyond : Fault}
    (h : readDigits limit beyond acc ds = .ok m) :
    (∀ c ∈ ds, c.isDigit = true) ∧ m = Nat.ofDigitChars 10 ds acc := by
  induction ds generalizing acc with
  | nil =>
      refine ⟨fun c hc => ?_, (Except.ok.inj h).symm⟩
      cases hc
  | cons c ds ih =>
      rw [readDigits] at h
      split at h
      · rename_i hc
        dsimp only at h
        split at h
        · cases h
        · obtain ⟨hds, hm⟩ := ih h
          exact ⟨List.forall_mem_cons.mpr ⟨hc, hds⟩, hm⟩
      · cases h

/-! ## Texts that spell numbers -/

/-- The digits in a text, with the sign in front of them if the type has signs,
    come to the number. -/
def Spells (t : IntType) (s : List Char) (n : Int) : Prop :=
  ∃ ds : List Char, ds ≠ [] ∧ (∀ c ∈ ds, c.isDigit = true)
    ∧ ((s = ds ∧ n = Nat.ofDigitChars 10 ds 0)
      ∨ (t.isSigned = true ∧ s = '+' :: ds ∧ n = Nat.ofDigitChars 10 ds 0)
      ∨ (t.isSigned = true ∧ s = '-' :: ds ∧ n = -(Nat.ofDigitChars 10 ds 0 : Int)))

/-- Digits begin with no sign. -/
theorem ne_sign_cons {ds ds' : List Char} {c : Char} (h : ∀ c ∈ ds, c.isDigit = true)
    (hc : c.isDigit = false) : ds ≠ c :: ds' := by
  rintro rfl
  have := h c (List.mem_cons_self ..)
  rw [hc] at this
  cases this

/-- Behind a plus stand digits, and only a signed type takes it. -/
theorem spells_plus_iff :
    t.Spells ('+' :: ds) n ↔ t.isSigned = true ∧ ds ≠ []
      ∧ (∀ c ∈ ds, c.isDigit = true) ∧ n = Nat.ofDigitChars 10 ds 0 := by
  constructor
  · rintro ⟨ds', hne, hd, ⟨hs, -⟩ | ⟨hsigned, hs, hn⟩ | ⟨-, hs, -⟩⟩
    · exact absurd hs.symm (ne_sign_cons hd rfl)
    · obtain rfl := (List.cons.inj hs).2
      exact ⟨hsigned, hne, hd, hn⟩
    · cases hs
  · rintro ⟨hsigned, hne, hd, hn⟩
    exact ⟨ds, hne, hd, Or.inr (Or.inl ⟨hsigned, rfl, hn⟩)⟩

theorem spells_minus_iff :
    t.Spells ('-' :: ds) n ↔ t.isSigned = true ∧ ds ≠ []
      ∧ (∀ c ∈ ds, c.isDigit = true) ∧ n = -(Nat.ofDigitChars 10 ds 0 : Int) := by
  constructor
  · rintro ⟨ds', hne, hd, ⟨hs, -⟩ | ⟨-, hs, -⟩ | ⟨hsigned, hs, hn⟩⟩
    · exact absurd hs.symm (ne_sign_cons hd rfl)
    · cases hs
    · obtain rfl := (List.cons.inj hs).2
      exact ⟨hsigned, hne, hd, hn⟩
  · rintro ⟨hsigned, hne, hd, hn⟩
    exact ⟨ds, hne, hd, Or.inr (Or.inr ⟨hsigned, rfl, hn⟩)⟩

/-- Without a sign there are only digits. -/
theorem spells_unsigned_iff (hplus : ∀ ds, s ≠ '+' :: ds) (hminus : ∀ ds, s ≠ '-' :: ds) :
    t.Spells s n ↔ s ≠ [] ∧ (∀ c ∈ s, c.isDigit = true) ∧ n = Nat.ofDigitChars 10 s 0 := by
  constructor
  · rintro ⟨ds, hne, hd, ⟨rfl, hn⟩ | ⟨-, hs, -⟩ | ⟨-, hs, -⟩⟩
    · exact ⟨hne, hd, hn⟩
    · exact absurd hs (hplus ds)
    · exact absurd hs (hminus ds)
  · rintro ⟨hne, hd, hn⟩
    exact ⟨s, hne, hd, Or.inl ⟨rfl, hn⟩⟩

/-- A number without a sign is spelled by its own digits. -/
theorem spells_toDigits (t : IntType) (m : Nat) : t.Spells (Nat.toDigits 10 m) m :=
  ⟨Nat.toDigits 10 m, Nat.toDigits_ne_nil,
    fun _ hc => Nat.isDigit_of_mem_toDigits (by decide) (by decide) hc,
    Or.inl ⟨rfl, by rw [Nat.ofDigitChars_ten_toDigits]⟩⟩

/-! ## Ranges -/

theorem least_le_zero (t : IntType) : t.least ≤ 0 := by
  cases t <;> decide

theorem zero_le_greatest (t : IntType) : 0 ≤ t.greatest := by
  cases t <;> decide

/-- The wide type of a type has all of its range. -/
theorem wide_range (t : IntType) : t.wide.least ≤ t.least ∧ t.greatest ≤ t.wide.greatest := by
  cases t <;> decide

theorem isSigned_wide (t : IntType) : t.wide.isSigned = t.isSigned := by
  cases t <;> rfl

/-- In the wide type the same texts spell the same integers. -/
theorem spells_wide_iff : t.wide.Spells s n ↔ t.Spells s n := by
  rw [Spells, Spells, isSigned_wide]

/-- Only what is in range is narrowed, to itself. -/
theorem narrow_eq_ok_iff {m : Int} :
    t.narrow n = .ok m ↔ m = n ∧ t.least ≤ n ∧ n ≤ t.greatest := by
  rw [narrow]
  split
  · exact iff_of_false (fun h => nomatch h) (fun h => by omega)
  · split
    · exact iff_of_false (fun h => nomatch h) (fun h => by omega)
    · constructor
      · intro h
        obtain rfl := Except.ok.inj h
        omega
      · rintro ⟨rfl, -⟩
        rfl

/-- Without a minus only the upper end of the range is met. -/
theorem narrow_ofNat (t : IntType) (m : Nat) :
    t.narrow (Int.ofNat m)
      = if t.greatest.toNat < m then .error .tooLarge else .ok (Int.ofNat m) := by
  have hleast := t.least_le_zero
  have hgreatest := t.zero_le_greatest
  rw [Int.ofNat_eq_natCast, narrow]
  split
  · rw [if_pos (by omega)]
  · rw [if_neg (by omega), if_neg (by omega)]

/-- Behind a minus only the lower end of the range is met. -/
theorem narrow_neg_ofNat (t : IntType) (m : Nat) :
    t.narrow (-Int.ofNat m)
      = if (-t.least).toNat < m then .error .tooSmall else .ok (-Int.ofNat m) := by
  have hleast := t.least_le_zero
  have hgreatest := t.zero_le_greatest
  rw [Int.ofNat_eq_natCast, narrow, if_neg (show ¬t.greatest < -(m : Int) by omega)]
  split
  · rw [if_pos (by omega)]
  · rw [if_neg (by omega)]

/-- **NARROWING TWICE** is narrowing once: the range of a type is part of the wide one, on
    both sides. -/
theorem narrow_wide (t : IntType) (n : Int) : t.wide.narrow n >>= t.narrow = t.narrow n := by
  have hleast := t.least_le_zero
  have hgreatest := t.zero_le_greatest
  obtain ⟨hwideLeast, hwideGreatest⟩ := t.wide_range
  rw [narrow]
  split
  · rw [narrow, if_pos (by omega)]
    rfl
  · split
    · rw [narrow, if_neg (by omega), if_pos (by omega)]
      rfl
    · rfl

/-! ## What is read -/

/-- Digits that are read up to an end of the range are narrowed. -/
theorem map_readDigits {limit : Nat} {beyond : Fault} {f : Nat → Int}
    (hf : ∀ m, t.narrow (f m) = if limit < m then .error beyond else .ok (f m))
    (hds : ∀ c ∈ ds, c.isDigit = true) :
    (readDigits limit beyond 0 ds).map f = t.narrow (f (Nat.ofDigitChars 10 ds 0)) := by
  rw [readDigits_of_digits (Nat.zero_le _) hds, hf]
  split <;> rfl

/-- A text that spells a number is read as that number, or the number is out of range. -/
theorem readText_of_spells (h : t.Spells s n) : t.readText s = t.narrow n := by
  obtain ⟨ds, hne, hds, ⟨rfl, rfl⟩ | ⟨-, rfl, rfl⟩ | ⟨hsigned, rfl, rfl⟩⟩ := h
  · show _ = t.narrow (Int.ofNat _)
    rw [← map_readDigits t.narrow_ofNat hds, readText.eq_def]
    split
    · exact absurd rfl hne
    · cases hds '+' (List.mem_cons_self ..)
    · cases hds '-' (List.mem_cons_self ..)
    · cases hds '+' (List.mem_cons_self ..)
    · cases hds '-' (List.mem_cons_self ..)
    · rfl
  · show _ = t.narrow (Int.ofNat _)
    rw [← map_readDigits t.narrow_ofNat hds, readText]
    exact fun hnil => hne hnil
  · show _ = t.narrow (-Int.ofNat _)
    rw [← map_readDigits t.narrow_neg_ofNat hds, readText, if_pos hsigned]
    exact fun hnil => hne hnil

/-- A text that is read spells the number; only behind an unsigned type is a plus something
    else. -/
theorem spells_of_readText (hsign : t.isSigned = true ∨ ∀ ds, s ≠ '+' :: ds)
    (h : t.readText s = .ok n) : t.Spells s n := by
  rw [readText.eq_def] at h
  split at h
  · cases h
  · cases h
  · cases h
  · rename_i ds hne
    obtain ⟨m, hm, rfl⟩ := map_eq_ok_iff.mp h
    obtain ⟨hds, rfl⟩ := digits_of_readDigits hm
    have hsigned : t.isSigned = true := hsign.resolve_right fun h => h ds rfl
    exact spells_plus_iff.mpr ⟨hsigned, fun hnil => hne hnil, hds, rfl⟩
  · rename_i ds hne
    split at h
    · rename_i hsigned
      obtain ⟨m, hm, rfl⟩ := map_eq_ok_iff.mp h
      obtain ⟨hds, rfl⟩ := digits_of_readDigits hm
      exact spells_minus_iff.mpr ⟨hsigned, fun hnil => hne hnil, hds, rfl⟩
    · cases h
  · rename_i hne _ _ hplus hminus
    obtain ⟨m, hm, rfl⟩ := map_eq_ok_iff.mp h
    obtain ⟨hds, rfl⟩ := digits_of_readDigits hm
    exact (spells_unsigned_iff hplus hminus).mpr ⟨hne, hds, rfl⟩

/-- A text is read if it spells an integer in range. -/
theorem readText_eq_ok_iff (hsigned : t.isSigned = true) :
    t.readText s = .ok n ↔ t.Spells s n ∧ t.least ≤ n ∧ n ≤ t.greatest := by
  constructor
  · intro h
    have hspells := spells_of_readText (Or.inl hsigned) h
    rw [readText_of_spells hspells, narrow_eq_ok_iff] at h
    exact ⟨hspells, h.2⟩
  · rintro ⟨hspells, hrange⟩
    rw [readText_of_spells hspells, narrow_eq_ok_iff]
    exact ⟨rfl, hrange⟩

/-- Whatever is read was spelled. -/
theorem spells_of_read (h : t.read s = .ok n) : t.Spells s n := by
  rw [read] at h
  split at h
  · cases h
  · rename_i hsign
    obtain ⟨m, hm, hn⟩ := bind_eq_ok_iff.mp h
    obtain ⟨rfl, -⟩ := narrow_eq_ok_iff.mp hn
    refine spells_wide_iff.mp (spells_of_readText ?_ hm)
    rw [isSigned_wide]
    by_cases hsigned : t.isSigned = true
    · exact Or.inl hsigned
    · refine Or.inr ?_
      rintro ds rfl
      exact hsign ⟨by simpa using hsigned, rfl⟩

/-- **THE NUMBER DECIDES**: what is read from a text that spells one depends on nothing
    else. -/
theorem read_of_spells (h : t.Spells s n) : t.read s = t.narrow n := by
  have hsign : ¬((!t.isSigned) = true ∧ s.head? = some '+') := by
    rintro ⟨hunsigned, hhead⟩
    obtain ⟨ds, rfl⟩ := List.head?_eq_some_iff.mp hhead
    rw [(spells_plus_iff.mp h).1] at hunsigned
    cases hunsigned
  rw [read, if_neg hsign, readText_of_spells (spells_wide_iff.mpr h), narrow_wide]

/-- **WHAT IS READ** is what the text spells, if the type has it. -/
theorem read_eq_ok_iff : t.read s = .ok n ↔ t.Spells s n ∧ t.least ≤ n ∧ n ≤ t.greatest := by
  constructor
  · intro h
    have hspells := spells_of_read h
    rw [read_of_spells hspells, narrow_eq_ok_iff] at h
    exact ⟨hspells, h.2⟩
  · rintro ⟨hspells, hrange⟩
    rw [read_of_spells hspells, narrow_eq_ok_iff]
    exact ⟨rfl, hrange⟩

end IntType

/-! ## Numbers as they are written -/

namespace JsonNumber

/-- A whole number is spelled by its own text, and has a minus exactly if it is
    negative. -/
theorem spells_text (t : IntType) (n : Int)
    (hn : IntType.i64.least ≤ n ∧ n ≤ IntType.u64.greatest)
    (hsigned : n < 0 → t.isSigned = true) : t.Spells (JsonNumber.integer n hn).text n := by
  refine ⟨Nat.toDigits 10 n.natAbs, Nat.toDigits_ne_nil,
    fun c hc => Nat.isDigit_of_mem_toDigits (by decide) (by decide) hc, ?_⟩
  rw [text, Nat.ofDigitChars_ten_toDigits]
  by_cases hneg : n < 0
  · exact Or.inr (Or.inr ⟨hsigned hneg, by rw [if_pos hneg]; rfl, by omega⟩)
  · exact Or.inl ⟨by rw [if_neg hneg]; rfl, by omega⟩

end JsonNumber

/-! ## Conversion -/

namespace Convert

variable {t : IntType} {v : Value} {n : Int}

/-- A value is converted if its text spells an integer in range. -/
theorem int_eq_ok_iff :
    int t v = .ok n ↔ t.Spells v.render n ∧ t.least ≤ n ∧ n ≤ t.greatest := by
  rw [int, scalar_eq_ok_iff, mapError_eq_ok_iff, IntType.read_eq_ok_iff]

/-- Of a spelled integer only the range decides. -/
theorem int_of_spells (h : t.Spells v.render n) :
    int t v = (t.narrow n).mapError fun fault => .parse t.name v.text fault.message := by
  rw [int, scalar, IntType.read_of_spells h]
  cases t.narrow n with
  | ok m => rfl
  | error fault => rfl

/-- **WHOLE NUMBERS IN TEXTS**: a text is converted exactly if it is digits, behind a sign
    at most if the type has signs, that come to a number of the type.  Everything else is
    reported with the type and the text, and a number that is out of range with the end at
    which it is. -/
theorem int_string (t : IntType) (s : String) :
    (∀ n, int t (.string s) = .ok n ↔ t.Spells s.toList n ∧ t.least ≤ n ∧ n ≤ t.greatest)
    ∧ ((¬∃ n, t.Spells s.toList n ∧ t.least ≤ n ∧ n ≤ t.greatest)
      → ∃ why, int t (.string s) = .error (.parse t.name s why))
    ∧ (∀ n, t.Spells s.toList n
      → int t (.string s)
        = (t.narrow n).mapError fun fault => .parse t.name s fault.message) := by
  have htext : (Value.string s).text = s := String.ofList_toList
  refine ⟨fun n => int_eq_ok_iff, ?_, ?_⟩
  · intro hnone
    cases hint : int t (.string s) with
    | ok n => exact absurd ⟨n, int_eq_ok_iff.mp hint⟩ hnone
    | error fault =>
        obtain ⟨why, -, rfl⟩ := scalar_eq_error_iff.mp hint
        exact ⟨why, by rw [htext]⟩
  · intro n hn
    rw [int_of_spells hn, htext]

/-- Zeros in front of the greatest number of the least type, the number below a range, one
    of thirty digits that 64 bits cannot hold either, and a sign that is one too many. -/
theorem int_string_ends :
    int .i8 (.string "+000000000000000000000000000127") = .ok 127
    ∧ int .i16 (.string "-32769")
      = .error (.parse "i16" "-32769" "number too small to fit in target type")
    ∧ int .u8 (.string "100000000000000000000000000255")
      = .error (.parse "u8" "100000000000000000000000000255"
        "number too large to fit in target type")
    ∧ ∃ why, int .u64 (.string "-0") = .error (.parse "u64" "-0" why) := by
  have hzeros : IntType.i8.Spells "+000000000000000000000000000127".toList 127 :=
    IntType.spells_plus_iff.mpr ⟨rfl, by decide, List.all_eq_true.mp rfl, by decide⟩
  have hminus : IntType.i16.Spells "-32769".toList (-32769) :=
    IntType.spells_minus_iff.mpr ⟨rfl, by decide, List.all_eq_true.mp rfl, by decide⟩
  have hlong : IntType.u8.Spells "100000000000000000000000000255".toList
      100000000000000000000000000255 :=
    ⟨_, by decide, List.all_eq_true.mp rfl, Or.inl ⟨rfl, by decide⟩⟩
  obtain ⟨hiff, -, -⟩ := int_string .i8 "+000000000000000000000000000127"
  obtain ⟨-, -, hsmall⟩ := int_string .i16 "-32769"
  obtain ⟨-, -, hlarge⟩ := int_string .u8 "100000000000000000000000000255"
  obtain ⟨-, hrefused, -⟩ := int_string .u64 "-0"
  refine ⟨(hiff 127).mpr ⟨hzeros, by decide, by decide⟩, (hsmall _ hminus).trans (by decide),
    (hlarge _ hlong).trans (by decide), hrefused ?_⟩
  rintro ⟨n, hspells, -⟩
  cases (IntType.spells_minus_iff.mp hspells).1

end Convert

end Fixture
