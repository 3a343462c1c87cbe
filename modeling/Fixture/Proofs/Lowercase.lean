import Fixture.Text.Lowercase

/-! # Lower case once and for all

    No character of a lower-case text has a lower-case form other than itself,
    so mapping a text a second time changes nothing.  A capital sigma may become
    either of two letters, and both of them stay. -/

namespace Fixture.Text

namespace Lowercase

/-- The character is its own lower-case form. -/
def Stable (c : Char) : Prop := c ≠ 'İ' ∧ ∀ r ∈ runs, r.has c.toNat = false

instance (c : Char) : Decidable (Stable c) :=
  decidable_of_iff (c ≠ 'İ' ∧ (runs.all fun r => !r.has c.toNat) = true) (by simp [Stable])

theorem Stable.ofChar {c : Char} (h : Stable c) : ofChar c = [c] := by
  rw [Lowercase.ofChar, if_neg h.1, List.find?_eq_none.mpr]
  intro r hr
  rw [h.2 r hr]
  exact Bool.false_ne_true

theorem Stable.ne_sigma {c : Char} (h : Stable c) : c ≠ 'Σ' := by
  rintro rfl
  exact absurd h (by decide +kernel)

/-! ## The table -/

/-- No image of the first run is mapped by the second one: the images lie in
    front of it or behind it, or between the code points that it maps.  The
    comparisons are those that are quick to compute, for there are as many pairs
    of runs. -/
def Run.apart (r s : Run) : Bool :=
  Nat.blt (r.image + (r.last - r.first)) s.first || Nat.blt s.last r.image
    || (Nat.beq s.stride 2 && (Nat.beq r.stride 2 || Nat.beq r.first r.last)
      && Nat.beq ((r.image + s.first) % 2) 1)

/-- The images of a run are characters, and not the dotted capital I. -/
def Run.proper (r : Run) : Bool :=
  (r.image + (r.last - r.first) < 0xD800
      || 0xDFFF < r.image && r.image + (r.last - r.first) < 0x110000)
    && (r.image + (r.last - r.first) < 'İ'.toNat || 'İ'.toNat < r.image)

theorem all_runs_proper : runs.all Run.proper = true := by
  decide +kernel

theorem all_runs_apart : (runs.all fun r => runs.all fun s => r.apart s) = true := by
  decide +kernel

/-- The images of a run are outside of a run apart from it. -/
theorem Run.not_has_of_apart {r s : Run} (h : r.apart s = true) {n : Nat}
    (hn : r.has n = true) : s.has (r.image + (n - r.first)) = false := by
  simp only [Run.apart, Run.has, Bool.or_eq_true, Bool.and_eq_true, decide_eq_true_eq,
    Nat.blt_eq, Nat.beq_eq] at h hn
  simp only [Run.has, Bool.and_eq_false_iff, decide_eq_false_iff_not]
  obtain ⟨⟨hfirst, hlast⟩, hstride⟩ := hn
  rcases h with (h | h) | ⟨⟨hs, hr⟩, hodd⟩
  · omega
  · omega
  · -- a step of the first run is even, so its images keep their parity
    have heven : (n - r.first) % 2 = 0 := by
      rcases hr with hr | hr
      · rw [hr] at hstride
        exact hstride
      · omega
    rw [hs]
    omega

/-- **IMAGES STAY**: what a character is mapped to is not mapped any further. -/
theorem stable_of_mem_ofChar {c d : Char} (h : d ∈ ofChar c) : Stable d := by
  rw [ofChar] at h
  split at h
  · have hdot : d = 'i' ∨ d = '\u0307' := by simpa using h
    rcases hdot with rfl | rfl
    · decide +kernel
    · decide +kernel
  · rename_i hc
    split at h
    · rename_i r hr
      have hmem := List.mem_of_find?_eq_some hr
      have hhas : r.has c.toNat = true := by simpa using List.find?_some hr
      have hproper := List.all_eq_true.mp all_runs_proper r hmem
      have hapart := List.all_eq_true.mp (List.all_eq_true.mp all_runs_apart r hmem)
      obtain rfl := List.mem_singleton.mp h
      have hbound : c.toNat - r.first ≤ r.last - r.first := by
        simp only [Run.has, Bool.and_eq_true, decide_eq_true_eq] at hhas
        omega
      simp only [Run.proper, Bool.or_eq_true, Bool.and_eq_true, decide_eq_true_eq] at hproper
      have hvalid : (r.image + (c.toNat - r.first)).isValidChar := by
        rw [Nat.isValidChar]
        omega
      have htoNat : (Char.ofNat (r.image + (c.toNat - r.first))).toNat
          = r.image + (c.toNat - r.first) := by
        rw [Char.ofNat, dif_pos hvalid]
        rfl
      refine ⟨?_, ?_⟩
      · intro heq
        rw [heq] at htoNat
        omega
      · intro s hs
        rw [htoNat]
        exact Run.not_has_of_apart (hapart s hs) hhas
    · rename_i hnone
      obtain rfl := List.mem_singleton.mp h
      refine ⟨hc, ?_⟩
      intro r hr
      simpa using List.find?_eq_none.mp hnone r hr

/-! ## Texts -/

/-- All that a lower-case form has is stable. -/
theorem stable_of_mem_behind {before s : List Char} {d : Char} (h : d ∈ behind before s) :
    Stable d := by
  induction s generalizing before with
  | nil => cases h
  | cons c s ih =>
      rw [behind, List.mem_append] at h
      rcases h with h | h
      · split at h
        · obtain rfl := List.mem_singleton.mp h
          split
          · decide +kernel
          · decide +kernel
        · exact stable_of_mem_ofChar h
      · exact ih h

/-- Stable characters stay, wherever they stand. -/
theorem behind_of_stable {before s : List Char} (h : ∀ c ∈ s, Stable c) :
    behind before s = s := by
  induction s generalizing before with
  | nil => rfl
  | cons c s ih =>
      have hc := h c (List.mem_cons_self ..)
      rw [behind, if_neg hc.ne_sigma, hc.ofChar, ih fun d hd => h d (List.mem_cons_of_mem c hd)]
      rfl

end Lowercase

/-- **LOWER CASE TWICE** is lower case once. -/
theorem lowercase_lowercase (s : List Char) : lowercase (lowercase s) = lowercase s :=
  Lowercase.behind_of_stable fun _ h => Lowercase.stable_of_mem_behind h

end Fixture.Text
