/-! # Finding and replacing text

    Texts are lists of characters here.  `cut?` splits a text around the first
    occurrence of a pattern; scanning and replacing are repeated cuts. -/

namespace Fixture.Text

/-- What is left of `s` behind the prefix `p`. -/
def dropFront? : List Char → List Char → Option (List Char)
  | [], s => some s
  | _ :: _, [] => none
  | p :: ps, c :: s => if p = c then dropFront? ps s else none

theorem dropFront?_eq_some_iff {p s r : List Char} :
    dropFront? p s = some r ↔ s = p ++ r := by
  induction p generalizing s with
  | nil => simp [dropFront?]
  | cons a p ih =>
      cases s with
      | nil => simp [dropFront?]
      | cons c s =>
          by_cases h : a = c
          · simp [dropFront?, h, ih]
          · simp [dropFront?, h, Ne.symm h]

/-- What stands before and after the first occurrence of `p` in `s`. -/
def cut? (p : List Char) : List Char → Option (List Char × List Char)
  | [] => if p = [] then some ([], []) else none
  | c :: s =>
      match dropFront? p (c :: s) with
      | some rest => some ([], rest)
      | none => (cut? p s).map fun (before, after) => (c :: before, after)

/-- A cut takes out the pattern and nothing else. -/
theorem eq_of_cut? {p s a b : List Char} (h : cut? p s = some (a, b)) :
    s = a ++ p ++ b := by
  induction s generalizing a with
  | nil =>
      simp only [cut?] at h
      split at h
      · simp_all
      · simp at h
  | cons c s ih =>
      simp only [cut?] at h
      split at h
      · rename_i rest hrest
        simp only [Option.some.injEq, Prod.mk.injEq] at h
        rw [dropFront?_eq_some_iff] at hrest
        obtain ⟨rfl, rfl⟩ := h
        simpa using hrest
      · simp only [Option.map_eq_some_iff, Prod.mk.injEq] at h
        obtain ⟨⟨x, y⟩, hxy, rfl, rfl⟩ := h
        simp [ih hxy]

theorem length_of_cut? {p s a b : List Char} (h : cut? p s = some (a, b)) :
    s.length = a.length + p.length + b.length := by
  rw [eq_of_cut? h]
  simp
  omega

/-- `s` with every occurrence of the non-empty `p` replaced by `r`, from left
    to right and without looking at replacements again. -/
def replaceAll (p r : List Char) (s : List Char) : List Char :=
  if _hp : p = [] then s
  else
    match _h : cut? p s with
    | none => s
    | some (before, after) => before ++ r ++ replaceAll p r after
termination_by s.length
decreasing_by
  have hl := length_of_cut? _h
  have : 0 < p.length := List.length_pos_iff.mpr _hp
  omega

/-- The pieces of `s` between the occurrences of a separating character. -/
def splitOn (sep : Char) : List Char → List (List Char)
  | [] => [[]]
  | c :: s =>
      if c = sep then [] :: splitOn sep s
      else
        match splitOn sep s with
        | [] => [[c]]
        | piece :: pieces => (c :: piece) :: pieces

/-- `s` cut at the first `sep`; without one, all of `s` and nothing. -/
def cutAt (sep : Char) (s : List Char) : List Char × List Char :=
  match cut? [sep] s with
  | some parts => parts
  | none => (s, [])

/-- How many bytes a text takes. -/
def byteSize : List Char → Nat
  | [] => 0
  | c :: s => c.utf8Size + byteSize s

/-- The characters that make up the first `n` bytes of `s`, if these do not end
    inside a character. -/
def takeBytes? : Nat → List Char → Option (List Char)
  | 0, _ => some []
  | _ + 1, [] => none
  | n + 1, c :: s =>
      if c.utf8Size ≤ n + 1 then (takeBytes? (n + 1 - c.utf8Size) s).map (c :: ·) else none

/-- What is left of `s` in front of the suffix `q`. -/
def dropBack? (q s : List Char) : Option (List Char) :=
  (dropFront? q.reverse s.reverse).map List.reverse

end Fixture.Text
