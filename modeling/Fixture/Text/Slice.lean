import Fixture.Text.Search

/-! # Slices

    Parts of a text between two offsets, which count bytes.  There is no slice at
    an offset inside a character or behind the end of the text. -/

namespace Fixture.Text

/-- What is left of `s` behind its first `n` bytes, if these do not end inside a
    character. -/
def dropBytes? : Nat → List Char → Option (List Char)
  | 0, s => some s
  | _ + 1, [] => none
  | n + 1, c :: s => if c.utf8Size ≤ n + 1 then dropBytes? (n + 1 - c.utf8Size) s else none

/-- The part of `s` from one offset up to another. -/
def slice? (start stop : Nat) (s : List Char) : Option (List Char) :=
  if start ≤ stop then (dropBytes? start s).bind (takeBytes? (stop - start)) else none

/-- The offset of the first occurrence of `p` in `s`. -/
def find? (p s : List Char) : Option Nat :=
  (cut? p s).map fun (before, _) => byteSize before

/-! ## Offsets of parts -/

@[simp] theorem byteSize_append (a b : List Char) :
    byteSize (a ++ b) = byteSize a + byteSize b := by
  induction a with
  | nil => exact (Nat.zero_add _).symm
  | cons c a ih => rw [List.cons_append, byteSize, byteSize, ih, Nat.add_assoc]

theorem byteSize_cons_pos (c : Char) (s : List Char) : 0 < byteSize (c :: s) :=
  Nat.add_pos_left c.utf8Size_pos _

/-- What is dropped ends between two characters. -/
theorem dropBytes?_eq_some_iff {n : Nat} {s r : List Char} :
    dropBytes? n s = some r ↔ ∃ a, s = a ++ r ∧ byteSize a = n := by
  fun_induction dropBytes? n s with
  | case1 s =>
      constructor
      · intro h
        exact ⟨[], Option.some.inj h, rfl⟩
      · rintro ⟨_ | ⟨c, a⟩, rfl, ha⟩
        · rfl
        · exact absurd ha (Nat.ne_of_gt (byteSize_cons_pos c a))
  | case2 n =>
      refine iff_of_false (fun h => nomatch h) ?_
      rintro ⟨a, hs, ha⟩
      obtain ⟨rfl, -⟩ := List.append_eq_nil_iff.mp hs.symm
      cases ha
  | case3 n c s hc ih =>
      rw [ih]
      constructor
      · rintro ⟨a, rfl, ha⟩
        exact ⟨c :: a, rfl, by rw [byteSize, ha, Nat.add_sub_cancel' hc]⟩
      · rintro ⟨_ | ⟨d, a⟩, hs, ha⟩
        · cases ha
        · obtain ⟨rfl, rfl⟩ := List.cons.inj hs
          rw [byteSize] at ha
          exact ⟨a, rfl, by omega⟩
  | case4 n c s hc =>
      refine iff_of_false (fun h => nomatch h) ?_
      rintro ⟨_ | ⟨d, a⟩, hs, ha⟩
      · cases ha
      · obtain ⟨rfl, -⟩ := List.cons.inj hs
        rw [byteSize] at ha
        omega

/-- What stands behind a text is left behind its bytes. -/
theorem dropBytes?_append (a r : List Char) : dropBytes? (byteSize a) (a ++ r) = some r :=
  dropBytes?_eq_some_iff.mpr ⟨a, rfl, rfl⟩

theorem takeBytes?_append (a r : List Char) : takeBytes? (byteSize a) (a ++ r) = some a := by
  induction a with
  | nil => simp [byteSize, takeBytes?]
  | cons c a ih =>
      obtain ⟨n, hn⟩ := Nat.exists_eq_succ_of_ne_zero (Nat.ne_of_gt (byteSize_cons_pos c a))
      have hfits : c.utf8Size ≤ n + 1 ∧ n + 1 - c.utf8Size = byteSize a := by
        rw [byteSize] at hn
        omega
      rw [hn, List.cons_append, takeBytes?, if_pos hfits.1, hfits.2, ih]
      rfl

/-- A part is the slice between the offsets where it starts and ends. -/
theorem slice?_append (a b c : List Char) :
    slice? (byteSize a) (byteSize a + byteSize b) (a ++ (b ++ c)) = some b := by
  rw [slice?, if_pos (Nat.le_add_right ..), dropBytes?_append, Option.bind_some,
    Nat.add_sub_cancel_left, takeBytes?_append]

end Fixture.Text
