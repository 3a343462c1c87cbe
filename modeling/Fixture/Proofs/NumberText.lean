import Mathlib.Data.List.TakeWhile
import Fixture.Json.Reader
import Fixture.Proofs.Digits

/-! # Numbers in front of more text

    A reader of a number looks for the end of its digits and of its parts.  A
    comma and a bracket end all of them, so what was read of a text on its own is
    read in front of these too.  Whole numbers are read back from their digits;
    of the others it is only shown where they end. -/

namespace Fixture.Json

/-- What may stand behind an item of an array. -/
def EndsItem (rest : List Char) : Prop := ∃ s, rest = ',' :: s ∨ rest = ']' :: s

variable {s r rest : List Char} {n : JsonNumber}

/-- Digits end where an item does. -/
theorem takeWhile_append_of_endsItem (s : List Char) (h : EndsItem rest) :
    (s ++ rest).takeWhile Char.isDigit = s.takeWhile Char.isDigit := by
  induction s with
  | nil =>
      obtain ⟨t, rfl | rfl⟩ := h
      · rfl
      · rfl
  | cons c s ih =>
      rw [List.cons_append, List.takeWhile_cons, List.takeWhile_cons, ih]

theorem dropWhile_append_of_endsItem (s : List Char) (h : EndsItem rest) :
    (s ++ rest).dropWhile Char.isDigit = s.dropWhile Char.isDigit ++ rest := by
  induction s with
  | nil =>
      obtain ⟨t, rfl | rfl⟩ := h
      · rfl
      · rfl
  | cons c s ih =>
      rw [List.cons_append, List.dropWhile_cons, List.dropWhile_cons, ih]
      split
      · rfl
      · rfl

/-- A real number takes nothing of what follows. -/
theorem realNumber_append {negative : Bool} {m : Nat} {x : Int}
    (h : realNumber negative m x s = .ok (n, r)) :
    realNumber negative m x (s ++ rest) = .ok (n, r ++ rest) := by
  rw [realNumber] at h ⊢
  split at h
  · obtain ⟨rfl, rfl⟩ := Prod.mk.inj (Except.ok.inj h)
    rfl
  · cases h

theorem takeSign_append (hs : s ≠ []) :
    takeSign (s ++ rest) = ((takeSign s).1, (takeSign s).2 ++ rest) := by
  obtain ⟨c, t, rfl⟩ := List.exists_cons_of_ne_nil hs
  rw [takeSign.eq_def, takeSign.eq_def (c :: t)]
  split
  · rename_i heq
    obtain ⟨rfl, rfl⟩ := List.cons.inj heq
    rfl
  · rename_i heq
    obtain ⟨rfl, rfl⟩ := List.cons.inj heq
    rfl
  · rename_i hplus hminus
    split
    · rename_i heq
      obtain ⟨rfl, rfl⟩ := List.cons.inj heq
      exact absurd rfl (hplus _)
    · rename_i heq
      obtain ⟨rfl, rfl⟩ := List.cons.inj heq
      exact absurd rfl (hminus _)
    · rfl

/-- What follows an item does not begin a further part of a number. -/
theorem append_ne_cons {c : Char} (hrest : EndsItem rest) (hs : ∀ t, s = c :: t → False)
    (hc : c ≠ ',' ∧ c ≠ ']') {t : List Char} : s ++ rest ≠ c :: t := by
  intro heq
  cases s with
  | nil =>
      obtain ⟨u, rfl | rfl⟩ := hrest
      · exact hc.1 (List.cons.inj heq).1.symm
      · exact hc.2 (List.cons.inj heq).1.symm
  | cons d u => exact hs u (by rw [(List.cons.inj heq).1])

/-- An exponent ends where the item does. -/
theorem takeExponent_append {negative : Bool} {m : Nat} {x : Int} (hrest : EndsItem rest)
    (h : takeExponent negative m x s = .ok (n, r)) :
    takeExponent negative m x (s ++ rest) = .ok (n, r ++ rest) := by
  have hs : s ≠ [] := by
    rintro rfl
    cases h
  rw [takeExponent] at h ⊢
  rw [takeSign_append hs]
  generalize takeSign s = signed at h ⊢
  obtain ⟨down, t⟩ := signed
  simp only [takeWhile_append_of_endsItem _ hrest, dropWhile_append_of_endsItem _ hrest] at h ⊢
  -- both texts have the same digits, and which ones they are does not matter any more
  generalize t.takeWhile Char.isDigit = ds at h ⊢
  generalize t.dropWhile Char.isDigit = after at h ⊢
  cases t with
  | nil => cases h
  | cons c t =>
      simp only [List.cons_append] at h ⊢
      split at h
      · cases h
      · rename_i hds
        rw [if_neg hds]
        cases hoverflow : exponentOverflow 0 0 ds with
        | none =>
            rw [hoverflow] at h
            exact realNumber_append h
        | some taken =>
            rw [hoverflow] at h
            dsimp only at h ⊢
            split at h
            · cases h
            · rename_i hzero
              rw [if_neg hzero]
              exact realNumber_append h

theorem takeFraction_append {negative : Bool} {ds : List Char} (hrest : EndsItem rest)
    (h : takeFraction negative ds s = .ok (n, r)) :
    takeFraction negative ds (s ++ rest) = .ok (n, r ++ rest) := by
  rw [takeFraction.eq_def] at h ⊢
  dsimp only at h ⊢
  split at h
  · rename_i t
    simp only [List.cons_append, takeWhile_append_of_endsItem _ hrest,
      dropWhile_append_of_endsItem _ hrest]
    generalize t.takeWhile Char.isDigit = ds' at h ⊢
    split at h
    · cases h
    · rename_i hds
      rw [if_neg hds]
      generalize t.dropWhile Char.isDigit = after at h ⊢
      split at h
      · exact takeExponent_append hrest h
      · exact takeExponent_append hrest h
      · rename_i he hE
        split
        · rename_i heq
          exact absurd heq (append_ne_cons hrest he (by decide))
        · rename_i heq
          exact absurd heq (append_ne_cons hrest hE (by decide))
        · exact realNumber_append h
  · exact takeExponent_append hrest h
  · exact takeExponent_append hrest h
  · rename_i hdot he hE
    split
    · rename_i heq
      exact absurd heq (append_ne_cons hrest hdot (by decide))
    · rename_i heq
      exact absurd heq (append_ne_cons hrest he (by decide))
    · rename_i heq
      exact absurd heq (append_ne_cons hrest hE (by decide))
    · split at h
      · obtain ⟨rfl, rfl⟩ := Prod.mk.inj (Except.ok.inj h)
        rfl
      · exact realNumber_append h

/-- **A NUMBER** ends where the item of an array ends. -/
theorem takeNumber_append {negative : Bool} (hrest : EndsItem rest)
    (h : takeNumber negative s = .ok (n, r)) :
    takeNumber negative (s ++ rest) = .ok (n, r ++ rest) := by
  rw [takeNumber.eq_def] at h
  split at h
  · cases h
  · rename_i t
    split at h
    · rename_i c t
      split at h
      · cases h
      · rename_i hdigit
        simp only [List.cons_append, takeNumber, hdigit]
        exact takeFraction_append hrest h
    · -- behind a zero at the end of the text there is no digit in either text
      obtain ⟨u, rfl | rfl⟩ := hrest
      · exact takeFraction_append ⟨u, Or.inl rfl⟩ h
      · exact takeFraction_append ⟨u, Or.inr rfl⟩ h
  · rename_i c t hzero
    split at h
    · rename_i hdigit
      rw [List.cons_append, takeNumber.eq_def]
      split
      · rename_i heq
        cases heq
      · rename_i heq
        obtain ⟨rfl, -⟩ := List.cons.inj heq
        exact (hzero rfl).elim
      · rename_i heq
        obtain ⟨rfl, rfl⟩ := List.cons.inj heq
        rw [if_pos hdigit, ← List.cons_append, takeWhile_append_of_endsItem _ hrest,
          dropWhile_append_of_endsItem _ hrest]
        exact takeFraction_append hrest h
    · cases h

/-! ## What is left -/

theorem takeSign_suffix (s : List Char) : (takeSign s).2 <:+ s := by
  rw [takeSign.eq_def]
  split
  · exact List.suffix_cons ..
  · exact List.suffix_cons ..
  · exact List.suffix_refl s

/-- A real number leaves all of the text. -/
theorem rest_of_realNumber {negative : Bool} {m : Nat} {x : Int}
    (h : realNumber negative m x s = .ok (n, r)) : r = s := by
  rw [realNumber] at h
  split at h
  · exact (Prod.mk.inj (Except.ok.inj h)).2.symm
  · cases h

/-- An exponent leaves the end of the text. -/
theorem suffix_of_takeExponent {negative : Bool} {m : Nat} {x : Int}
    (h : takeExponent negative m x s = .ok (n, r)) : r <:+ s := by
  have hrest : (takeSign s).2.dropWhile Char.isDigit <:+ s :=
    (List.dropWhile_suffix _).trans (takeSign_suffix s)
  rw [takeExponent] at h
  dsimp only at h
  split at h
  · cases h
  · split at h
    · cases h
    · split at h
      · split at h
        · cases h
        · rw [rest_of_realNumber h]
          exact hrest
      · rw [rest_of_realNumber h]
        exact hrest

theorem suffix_of_takeFraction {negative : Bool} {ds : List Char}
    (h : takeFraction negative ds s = .ok (n, r)) : r <:+ s := by
  rw [takeFraction.eq_def] at h
  dsimp only at h
  split at h
  · rename_i t
    have hrest : t.dropWhile Char.isDigit <:+ '.' :: t :=
      (List.dropWhile_suffix _).trans (List.suffix_cons ..)
    split at h
    · cases h
    · split at h
      · rename_i heq
        exact (suffix_of_takeExponent h).trans ((List.suffix_cons ..).trans (heq ▸ hrest))
      · rename_i heq
        exact (suffix_of_takeExponent h).trans ((List.suffix_cons ..).trans (heq ▸ hrest))
      · rw [rest_of_realNumber h]
        exact hrest
  · exact (suffix_of_takeExponent h).trans (List.suffix_cons ..)
  · exact (suffix_of_takeExponent h).trans (List.suffix_cons ..)
  · split at h
    · exact (Prod.mk.inj (Except.ok.inj h)).2 ▸ List.suffix_refl _
    · obtain rfl := rest_of_realNumber h
      exact List.suffix_refl _

theorem suffix_of_takeNumber {negative : Bool} (h : takeNumber negative s = .ok (n, r)) :
    r <:+ s := by
  rw [takeNumber.eq_def] at h
  split at h
  · cases h
  · split at h
    · split at h
      · cases h
      · exact (suffix_of_takeFraction h).trans (List.suffix_cons ..)
    · exact (suffix_of_takeFraction h).trans (List.suffix_cons ..)
  · split at h
    · exact (suffix_of_takeFraction h).trans (List.dropWhile_suffix _)
    · cases h

/-! ## Whole numbers -/

/-- No number but zero begins with a zero. -/
theorem head?_toDigits {m : Nat} (hm : 0 < m) : (Nat.toDigits 10 m).head? ≠ some '0' := by
  induction m using Nat.strongRecOn with
  | _ m ih =>
      by_cases hlt : m < 10
      · have hdigits : ∀ d < 10, 0 < d → (Nat.toDigits 10 d).head? ≠ some '0' := by decide
        exact hdigits m hlt hm
      · have hquotient : 0 < m / 10 := by omega
        have happend := Nat.toDigits_append_toDigits (b := 10) (by decide) hquotient
          (Nat.mod_lt m (show 0 < 10 by decide))
        rw [Nat.div_add_mod] at happend
        rw [← happend, List.head?_append_of_ne_nil _ Nat.toDigits_ne_nil]
        exact ih (m / 10) (by omega) hquotient

/-- Digits of a number of 64 bits are all appended. -/
theorem appendDigits_eq {m : Nat} {ds : List Char}
    (h : Nat.ofDigitChars 10 ds m < 18446744073709551616) :
    appendDigits m ds = (Nat.ofDigitChars 10 ds m, ds.length) := by
  induction ds generalizing m with
  | nil => rfl
  | cons c ds ih =>
      rw [Nat.ofDigitChars_cons] at h ⊢
      rw [appendDigits]
      dsimp only
      -- the digits behind it make the number no smaller, so it is in bounds as well
      rw [if_pos (Nat.lt_of_le_of_lt (IntType.le_ofDigitChars _ ds) h), ih h]
      rfl

/-- Digits that are written have no zero in front, so all of them are taken. -/
theorem takeNumber_toDigits (negative : Bool) (m : Nat) :
    takeNumber negative (Nat.toDigits 10 m) = takeFraction negative (Nat.toDigits 10 m) [] := by
  rcases Nat.eq_zero_or_pos m with rfl | hm
  · rfl
  · have hdigits : ∀ c ∈ Nat.toDigits 10 m, c.isDigit = true :=
      fun c hc => Nat.isDigit_of_mem_toDigits (by decide) (by decide) hc
    have hhead := head?_toDigits hm
    cases hds : Nat.toDigits 10 m with
    | nil => exact absurd hds Nat.toDigits_ne_nil
    | cons c ds =>
        rw [hds] at hdigits hhead
        rw [takeNumber.eq_def]
        split
        · rename_i heq
          cases heq
        · rename_i heq
          rw [heq] at hhead
          exact absurd rfl hhead
        · rename_i heq
          obtain ⟨rfl, rfl⟩ := List.cons.inj heq
          rw [if_pos (hdigits _ (List.mem_cons_self ..)), List.takeWhile_eq_self_iff.mpr hdigits,
            List.dropWhile_eq_nil_iff.mpr hdigits]

/-- The digits of a whole number, behind its sign, are read as the number. -/
theorem takeNumber_natAbs (k : Int) (hk : IntType.i64.least ≤ k ∧ k ≤ IntType.u64.greatest) :
    takeNumber (decide (k < 0)) (Nat.toDigits 10 k.natAbs) = .ok (.integer k hk, []) := by
  have hbound : k.natAbs < 18446744073709551616 := by
    have := hk
    rw [IntType.least_i64, IntType.greatest_u64] at this
    omega
  rw [takeNumber_toDigits, takeFraction.eq_def, appendDigits_eq
    (by rwa [Nat.ofDigitChars_ten_toDigits]), Nat.ofDigitChars_ten_toDigits]
  dsimp only
  rw [if_neg (by omega)]
  by_cases hneg : k < 0
  · have hne : ¬ ((k.natAbs : Int) = 0) := by omega
    have hk' : -(k.natAbs : Int) = k := by omega
    rw [decide_eq_true hneg, if_pos rfl, if_neg hne, hk', JsonNumber.ofInt?, dif_pos hk]
  · have hk' : (k.natAbs : Int) = k := by omega
    rw [decide_eq_false hneg, if_neg Bool.false_ne_true, hk', JsonNumber.ofInt?, dif_pos hk]

end Fixture.Json
