import Fixture.Text.Search
import Mathlib.Data.List.Infix

/-! # Where a pattern can occur

    Cutting and replacing act on the first occurrence of a pattern, so what
    they do to a text that is put together from parts depends on where
    occurrences may start and end.  Two facts settle every case met here: a
    part in which no occurrence starts, whatever follows it, is passed over
    (`Inert`), and a pattern whose last character is found nowhere else in it
    cannot reach across that character.

    So the occurrences of such a pattern lie apart, and replacing it exchanges
    those between given pieces and nothing else exactly if there are no others:
    one more would be replaced too, and be seen in the text or in its length. -/

namespace Fixture.Text

/-! ## Parts that are passed over -/

/-- No occurrence of `p` starts inside `g`, whatever follows. -/
def Inert (p g : List Char) : Prop :=
  ∀ v, v <:+ g → v ≠ [] → ∀ t, ¬ p <+: v ++ t

theorem inert_nil (p : List Char) : Inert p [] :=
  fun _ hv hne => absurd (List.suffix_nil.mp hv) hne

/-- No occurrence starts in a longer text if none starts at its first character. -/
theorem inert_cons {p g : List Char} {c : Char}
    (hc : ∀ t, ¬ p <+: c :: (g ++ t)) (hg : Inert p g) : Inert p (c :: g) := by
  intro v hv hne t
  rcases List.suffix_cons_iff.mp hv with rfl | hv
  · exact hc t
  · exact hg v hv hne t

theorem Inert.head {p g : List Char} {c : Char} (h : Inert p (c :: g))
    (t : List Char) : ¬ p <+: c :: (g ++ t) :=
  h (c :: g) List.suffix_rfl (List.cons_ne_nil c g) t

theorem Inert.tail {p g : List Char} {c : Char} (h : Inert p (c :: g)) :
    Inert p g := by
  intro v hv hne t
  exact h v (hv.trans (List.suffix_cons c g)) hne t

/-- Two inert texts in a row are inert. -/
theorem Inert.append {p g h : List Char} (hg : Inert p g) (hh : Inert p h) :
    Inert p (g ++ h) := by
  induction g with
  | nil => exact hh
  | cons c g ih =>
      refine inert_cons ?_ (ih hg.tail)
      intro t
      show ¬ p <+: c :: ((g ++ h) ++ t)
      rw [List.append_assoc]
      exact hg.head (h ++ t)

/-- A longer pattern starts where the shorter one does. -/
theorem Inert.mono {p p' g : List Char} (hg : Inert p g) (hp : p <+: p') :
    Inert p' g := by
  intro v hv hne t h
  exact hg v hv hne t (hp.trans h)

/-- An occurrence in a text with an inert front lies behind that front. -/
theorem Inert.of_infix_append {p g t : List Char} (hg : Inert p g)
    (h : p <:+: g ++ t) : p <:+: t := by
  induction g with
  | nil => exact h
  | cons c g ih =>
      rcases List.infix_cons_iff.mp h with h | h
      · exact absurd h (hg.head t)
      · exact ih hg.tail h

/-! ## Words with a leading character -/

/-- The text begins with `x` and holds it nowhere else. -/
def Leads (x : Char) (w : List Char) : Prop := ∃ q, w = x :: q ∧ x ∉ q

theorem Leads.mem {x : Char} {w : List Char} (hw : Leads x w) : x ∈ w := by
  obtain ⟨q, rfl, -⟩ := hw
  exact List.mem_cons_self ..

theorem Leads.append {x : Char} {w g : List Char} (hw : Leads x w) (hg : x ∉ g) :
    Leads x (w ++ g) := by
  obtain ⟨q, rfl, hq⟩ := hw
  refine ⟨q ++ g, rfl, ?_⟩
  rw [List.mem_append]
  rintro (h | h)
  · exact hq h
  · exact hg h

/-- A text without the leading character of the pattern is inert. -/
theorem Leads.inert_of_not_mem {x : Char} {p g : List Char} (hp : Leads x p)
    (hx : x ∉ g) : Inert p g := by
  obtain ⟨q, rfl, -⟩ := hp
  rintro v hv hne t ⟨w, hw⟩
  cases v with
  | nil => exact hne rfl
  | cons c v =>
      have hc : x = c := (List.cons.inj hw).1
      exact hx (hc ▸ hv.subset (List.mem_cons_self ..))

/-- Of two words with the same leading character one is inert for the other,
    unless one begins with the other. -/
theorem Leads.inert {x : Char} {p w : List Char} (hp : Leads x p) (hw : Leads x w)
    (h₁ : ¬ p <+: w) (h₂ : ¬ w <+: p) : Inert p w := by
  obtain ⟨g, rfl, hg⟩ := hw
  refine inert_cons ?_ (hp.inert_of_not_mem hg)
  intro t h
  have hpre : x :: g <+: x :: (g ++ t) := ⟨t, rfl⟩
  rcases List.prefix_or_prefix_of_prefix h hpre with h | h
  · exact h₁ h
  · exact h₂ h

/-- One word ends with another of the same leading character only if they are
    the same. -/
theorem Leads.eq_of_ends {x : Char} {p w : List Char} (hp : Leads x p)
    (hw : Leads x w) (h : p <:+ w) : p = w := by
  obtain ⟨g, rfl, hg⟩ := hw
  rcases List.suffix_cons_iff.mp h with h | h
  · exact h
  · exact absurd (h.subset hp.mem) hg

/-! ## Patterns with an end mark -/

/-- An occurrence ends where the end mark stands. -/
theorem infix_of_infix_append {q a b : List Char} {x : Char} (hx : x ∉ b)
    (h : q ++ [x] <:+: a ++ b) : q ++ [x] <:+: a := by
  rcases List.infix_append_iff_ne_nil.mp h with h | h | ⟨l, r, -, hr, hlr, -, hrb⟩
  · exact h
  · exact absurd (h.subset (by simp)) hx
  · have hlast : x ∈ r := by
      have := congrArg List.getLast? hlr
      rw [List.getLast?_append_of_ne_nil l hr, List.getLast?_concat] at this
      exact List.mem_of_getLast? this.symm
    exact absurd (hrb.subset hlast) hx

/-- A text that ends in the end mark is inert if the pattern is not in it:
    an occurrence that started in it would have the mark inside. -/
theorem inert_of_end_mark {q a : List Char} {x : Char} (hx : x ∉ q)
    (h : ¬ q ++ [x] <:+: a ++ [x]) : Inert (q ++ [x]) (a ++ [x]) := by
  intro v hv hne t hp
  rcases List.suffix_concat_iff.mp hv with rfl | ⟨u, rfl, hu⟩
  · exact hne rfl
  · rcases List.prefix_or_prefix_of_prefix hp (List.prefix_append (u ++ [x]) t) with hp | hp
    · exact h (hp.isInfix.trans hv.isInfix)
    · rcases List.prefix_concat_iff.mp hp with he | hp
      · exact h (he ▸ hv.isInfix)
      · exact hx (hp.subset (by simp))

/-! ## Cutting -/

/-- A front is dropped if it is there. -/
theorem dropFront?_eq_none_iff {p s : List Char} :
    dropFront? p s = none ↔ ¬ p <+: s := by
  rw [Option.eq_none_iff_forall_ne_some]
  constructor
  · rintro h ⟨r, rfl⟩
    exact h r (dropFront?_eq_some_iff.mpr rfl)
  · intro h r hr
    exact h ⟨r, (dropFront?_eq_some_iff.mp hr).symm⟩

/-- What is left in front of a suffix. -/
theorem dropBack?_eq_some_iff {q s r : List Char} :
    dropBack? q s = some r ↔ s = r ++ q := by
  rw [dropBack?, Option.map_eq_some_iff]
  constructor
  · rintro ⟨t, ht, rfl⟩
    have := congrArg List.reverse (dropFront?_eq_some_iff.mp ht)
    simpa using this
  · rintro rfl
    exact ⟨r.reverse, dropFront?_eq_some_iff.mpr (by simp), by simp⟩

/-- There is a cut where the pattern occurs and only there. -/
theorem cut?_eq_none_iff {p s : List Char} : cut? p s = none ↔ ¬ p <:+: s := by
  induction s with
  | nil =>
      by_cases hp : p = []
      · simp [cut?, hp]
      · simp [cut?, hp]
  | cons c s ih =>
      rw [List.infix_cons_iff, not_or, ← ih, ← dropFront?_eq_none_iff]
      cases h : dropFront? p (c :: s) <;> simp [cut?, h]

/-- No occurrence starts in front of the first one, not even one that reaches into it. -/
theorem not_prefix_of_cut? {p s a b : List Char} (h : cut? p s = some (a, b)) {v : List Char}
    (hv : v <:+ a) (hne : v ≠ []) : ¬ p <+: v ++ (p ++ b) := by
  induction s generalizing a with
  | nil =>
      rw [cut?] at h
      split at h
      · obtain ⟨rfl, -⟩ := Prod.mk.inj (Option.some.inj h)
        exact absurd (List.suffix_nil.mp hv) hne
      · cases h
  | cons c s ih =>
      rw [cut?] at h
      cases hd : dropFront? p (c :: s) with
      | some r =>
          rw [hd] at h
          obtain ⟨rfl, -⟩ := Prod.mk.inj (Option.some.inj h)
          exact absurd (List.suffix_nil.mp hv) hne
      | none =>
          rw [hd] at h
          obtain ⟨⟨a', b'⟩, hcut, heq⟩ := Option.map_eq_some_iff.mp h
          obtain ⟨rfl, rfl⟩ := Prod.mk.inj heq
          rcases List.suffix_cons_iff.mp hv with rfl | hv
          · rw [eq_of_cut? hcut, List.append_assoc] at hd
            exact dropFront?_eq_none_iff.mp hd
          · exact ih hcut hv

/-- What is cut off in front is free of the pattern. -/
theorem not_infix_of_cut? {p s a b : List Char} (hp : p ≠ [])
    (h : cut? p s = some (a, b)) : ¬ p <:+: a := by
  rintro ⟨u, w, rfl⟩
  have hv : p ++ w <:+ u ++ p ++ w := ⟨u, (List.append_assoc ..).symm⟩
  exact not_prefix_of_cut? h hv (List.append_ne_nil_of_left_ne_nil hp w)
    ⟨w ++ (p ++ b), (List.append_assoc ..).symm⟩

/-- A text that begins with the pattern is cut there. -/
theorem cut?_append_self (p s : List Char) : cut? p (p ++ s) = some ([], s) := by
  cases p with
  | nil => cases s <;> simp [cut?, dropFront?]
  | cons c p =>
      have h : dropFront? (c :: p) (c :: (p ++ s)) = some s :=
        dropFront?_eq_some_iff.mpr rfl
      show cut? (c :: p) (c :: (p ++ s)) = some ([], s)
      rw [cut?, h]

/-- A text in front of which no occurrence starts is cut behind that front. -/
theorem cut?_append_front {p g t : List Char}
    (h : ∀ v, v <:+ g → v ≠ [] → ¬ p <+: v ++ t) :
    cut? p (g ++ t) = (cut? p t).map fun (a, b) => (g ++ a, b) := by
  induction g with
  | nil => simp
  | cons c g ih =>
      have hd : dropFront? p (c :: (g ++ t)) = none :=
        dropFront?_eq_none_iff.mpr (h (c :: g) List.suffix_rfl (List.cons_ne_nil c g))
      have hg := ih fun v hv => h v (hv.trans (List.suffix_cons c g))
      show cut? p (c :: (g ++ t)) = _
      rw [cut?, hd, hg]
      simp [Function.comp_def]

theorem Inert.cut? {p g : List Char} (hg : Inert p g) (s : List Char) :
    cut? p (g ++ s) = (Text.cut? p s).map fun (a, b) => (g ++ a, b) :=
  cut?_append_front fun v hv hne => hg v hv hne s

/-- A pattern with an end mark that is not in `a` is first found right behind
    it. -/
theorem cut?_append_end_mark {q a : List Char} {x : Char} (hx : x ∉ q)
    (h : ¬ q ++ [x] <:+: a) (b : List Char) :
    cut? (q ++ [x]) (a ++ (q ++ [x] ++ b)) = some (a, b) := by
  have hfront : ∀ v, v <:+ a → v ≠ [] → ¬ q ++ [x] <+: v ++ (q ++ [x] ++ b) := by
    intro v hv hne hp
    have hw : v ++ q <+: v ++ (q ++ [x] ++ b) := ⟨[x] ++ b, by simp⟩
    have hpos := List.length_pos_iff.mpr hne
    have hin := List.prefix_of_prefix_length_le hp hw (by
      simp only [List.length_append, List.length_singleton]
      omega)
    exact h ((infix_of_infix_append hx hin.isInfix).trans hv.isInfix)
  rw [cut?_append_front hfront, cut?_append_self]
  simp

/-- A character is found where it first stands. -/
theorem cut?_singleton {x : Char} {a : List Char} (hx : x ∉ a) (b : List Char) :
    cut? [x] (a ++ x :: b) = some (a, b) := by
  have hnot : ¬ [] ++ [x] <:+: a := fun hin => hx ((List.singleton_infix_iff _ _).mp hin)
  exact cut?_append_end_mark List.not_mem_nil hnot b

/-! ## Beginnings -/

/-- What begins a text that has `x` behind `a` begins `a`, or reaches across that
    character. -/
theorem prefix_append_cons_iff {p a t : List Char} {x : Char} :
    p <+: a ++ x :: t ↔ p <+: a ∨ ∃ u, p = a ++ x :: u ∧ u <+: t := by
  constructor
  · intro h
    rcases List.prefix_or_prefix_of_prefix h (List.prefix_append a (x :: t)) with hp | ⟨v, rfl⟩
    · exact Or.inl hp
    · cases v with
      | nil =>
          rw [List.append_nil]
          exact Or.inl List.prefix_rfl
      | cons y u =>
          obtain ⟨rfl, hu⟩ := List.cons_prefix_cons.mp ((List.prefix_append_right_inj a).mp h)
          exact Or.inr ⟨u, rfl, hu⟩
  · rintro (h | ⟨u, rfl, hu⟩)
    · exact h.trans (List.prefix_append a (x :: t))
    · exact (List.prefix_append_right_inj a).mpr (List.cons_prefix_cons.mpr ⟨rfl, hu⟩)

/-- A word with a leading character that begins in front of another such word
    ends there too. -/
theorem Leads.prefix_of_prefix_append {x : Char} {p w a t : List Char} (hp : Leads x p)
    (hw : Leads x w) (ha : a ≠ []) (h : p <+: a ++ (w ++ t)) : p <+: a := by
  obtain ⟨v, rfl, -⟩ := hw
  rcases prefix_append_cons_iff.mp h with h | ⟨u, hu, -⟩
  · exact h
  · obtain ⟨q, rfl, hq⟩ := hp
    obtain ⟨c, a', rfl⟩ := List.exists_cons_of_ne_nil ha
    obtain ⟨-, rfl⟩ := List.cons.inj hu
    exact absurd (List.mem_append_right a' (List.mem_cons_self ..)) hq

/-! ## Replacing -/

/-- The first occurrence is replaced, and then those behind it. -/
theorem replaceAll_of_cut? {p r s a b : List Char} (hp : p ≠ [])
    (h : cut? p s = some (a, b)) :
    replaceAll p r s = a ++ r ++ replaceAll p r b := by
  rw [replaceAll, dif_neg hp]
  split
  · rename_i hn
    rw [h] at hn
    cases hn
  · rename_i a' b' hs
    rw [h] at hs
    obtain ⟨rfl, rfl⟩ := Prod.mk.inj (Option.some.inj hs)
    rfl

/-- Without an occurrence nothing is replaced. -/
theorem replaceAll_eq_self {p r s : List Char} (h : ¬ p <:+: s) :
    replaceAll p r s = s := by
  rw [replaceAll]
  split
  · rfl
  · split
    · rfl
    · rename_i a b hs
      rw [cut?_eq_none_iff.mpr h] at hs
      cases hs

/-- A pattern replaced by itself. -/
theorem replaceAll_same (p s : List Char) : replaceAll p p s = s := by
  fun_induction replaceAll p p s with
  | case1 => rfl
  | case2 => rfl
  | case3 s hp a b hs ih => rw [ih, ← eq_of_cut? hs]

theorem replaceAll_append_self {p : List Char} (hp : p ≠ []) (r s : List Char) :
    replaceAll p r (p ++ s) = r ++ replaceAll p r s :=
  replaceAll_of_cut? hp (cut?_append_self p s)

/-- The pattern itself is replaced as a whole. -/
theorem replaceAll_self {p : List Char} (hp : p ≠ []) (r : List Char) :
    replaceAll p r p = r := by
  have hnil : replaceAll p r [] = [] :=
    replaceAll_eq_self (fun hin => hp (List.infix_nil.mp hin))
  have := replaceAll_append_self hp r []
  rwa [hnil, List.append_nil, List.append_nil] at this

/-- A character at which the pattern does not begin stays. -/
theorem replaceAll_cons {p : List Char} {c : Char} {s : List Char}
    (h : ¬ p <+: c :: s) (r : List Char) :
    replaceAll p r (c :: s) = c :: replaceAll p r s := by
  have hp : p ≠ [] := by
    rintro rfl
    exact h List.nil_prefix
  have hcut : cut? p (c :: s) = (cut? p s).map fun (a, b) => (c :: a, b) := by
    rw [cut?, dropFront?_eq_none_iff.mpr h]
  cases hs : cut? p s with
  | none =>
      rw [hs] at hcut
      rw [replaceAll_eq_self (cut?_eq_none_iff.mp hs),
          replaceAll_eq_self (cut?_eq_none_iff.mp hcut)]
  | some ab =>
      rw [hs] at hcut
      rw [replaceAll_of_cut? hp hs, replaceAll_of_cut? hp hcut]
      rfl

/-- Where replacements begin with a character that a word does not have, the word
    begins no text that it did not begin before. -/
theorem prefix_of_prefix_replaceAll {p q r s : List Char} {x : Char} (hx : x ∉ q)
    (h : q <+: replaceAll p (x :: r) s) : q <+: s := by
  by_cases hp : p = []
  · rwa [replaceAll, dif_pos hp] at h
  · cases hs : cut? p s with
    | none => rwa [replaceAll_eq_self (cut?_eq_none_iff.mp hs)] at h
    | some ab =>
        obtain ⟨a, b⟩ := ab
        rw [replaceAll_of_cut? hp hs, List.append_assoc] at h
        rcases prefix_append_cons_iff.mp h with h | ⟨u, rfl, -⟩
        · rw [eq_of_cut? hs, List.append_assoc]
          exact h.trans (List.prefix_append a (p ++ b))
        · exact absurd (List.mem_append_right a (List.mem_cons_self ..)) hx

/-- An inert front stays as it is. -/
theorem Inert.replaceAll {p g : List Char} (hg : Inert p g) (r s : List Char) :
    replaceAll p r (g ++ s) = g ++ Text.replaceAll p r s := by
  by_cases hp : p = []
  · subst hp
    rw [Text.replaceAll, Text.replaceAll, dif_pos rfl, dif_pos rfl]
  · cases h : Text.cut? p s with
    | none =>
        have hs : ¬ p <:+: s := cut?_eq_none_iff.mp h
        rw [replaceAll_eq_self hs,
            replaceAll_eq_self (fun hin => hs (hg.of_infix_append hin))]
    | some ab =>
        obtain ⟨a, b⟩ := ab
        have hcut : Text.cut? p (g ++ s) = some (g ++ a, b) := by
          rw [hg.cut? s, h]
          rfl
        rw [replaceAll_of_cut? hp h, replaceAll_of_cut? hp hcut]
        simp only [List.append_assoc]

/-- Occurrences of a pattern with an end mark lie apart: what stands in front of one
    and what stands behind it are replaced on their own. -/
theorem replaceAll_append_end_mark {q : List Char} {x : Char} (hx : x ∉ q)
    (a r b : List Char) :
    replaceAll (q ++ [x]) r (a ++ (q ++ [x] ++ b))
      = replaceAll (q ++ [x]) r a ++ r ++ replaceAll (q ++ [x]) r b := by
  have hp : q ++ [x] ≠ [] := by simp
  fun_induction replaceAll (q ++ [x]) r a with
  | case1 a hnil => exact absurd hnil hp
  | case2 a _ hnone =>
      exact replaceAll_of_cut? hp (cut?_append_end_mark hx (cut?_eq_none_iff.mp hnone) b)
  | case3 a _ before after hsome ih =>
      have hcut : cut? (q ++ [x]) (a ++ (q ++ [x] ++ b))
          = some (before, after ++ (q ++ [x] ++ b)) := by
        have := cut?_append_end_mark hx (not_infix_of_cut? hp hsome) (after ++ (q ++ [x] ++ b))
        rw [eq_of_cut? hsome]
        simpa only [List.append_assoc] using this
      rw [replaceAll_of_cut? hp hcut, ih]
      simp only [List.append_assoc]

/-! ## What replacing changes -/

/-- Each occurrence that is replaced changes the length by as much. -/
theorem exists_length_replaceAll (p r s : List Char) :
    ∃ n, (replaceAll p r s).length + n * p.length = s.length + n * r.length := by
  fun_induction replaceAll p r s with
  | case1 | case2 => exact ⟨0, by rw [Nat.zero_mul, Nat.zero_mul]⟩
  | case3 s hp before after h ih =>
      obtain ⟨n, hn⟩ := ih
      refine ⟨n + 1, ?_⟩
      rw [eq_of_cut? h]
      simp only [List.length_append, Nat.succ_mul]
      omega

/-- A text stays as it is only if there is nothing to replace in it. -/
theorem replaceAll_eq_self_iff {p r s : List Char} (hp : p ≠ []) (hr : r ≠ p) :
    replaceAll p r s = s ↔ ¬ p <:+: s := by
  refine ⟨fun h => ?_, replaceAll_eq_self⟩
  rw [← cut?_eq_none_iff, Option.eq_none_iff_forall_ne_some]
  rintro ⟨a, b⟩ hcut
  rw [replaceAll_of_cut? hp hcut, eq_of_cut? hcut, List.append_assoc, List.append_assoc,
    List.append_cancel_left_eq] at h
  -- the first occurrence and the others behind it change the length alike
  obtain ⟨n, hn⟩ := exists_length_replaceAll p r b
  have hlength := congrArg List.length h
  simp only [List.length_append] at hlength
  have hcount : (n + 1) * r.length = (n + 1) * p.length := by
    simp only [Nat.succ_mul]
    omega
  exact hr (List.append_inj h (Nat.eq_of_mul_eq_mul_left n.succ_pos hcount)).1

/-! ## Pieces joined by the pattern -/

/-- Pieces joined by a pattern with an end mark are replaced on their own, and the
    pattern between them gives way. -/
theorem replaceAll_intercalate {q : List Char} {x : Char} (hx : x ∉ q) (r : List Char) :
    ∀ gs : List (List Char), replaceAll (q ++ [x]) r ((q ++ [x]).intercalate gs)
      = r.intercalate (gs.map (replaceAll (q ++ [x]) r))
  | [] => replaceAll_eq_self (by simp)
  | [g] => by
      rw [List.intercalate_singleton, List.map_singleton, List.intercalate_singleton]
  | g :: g' :: gs => by
      have ih := replaceAll_intercalate hx r (g' :: gs)
      rw [List.intercalate_cons_cons, List.append_assoc, replaceAll_append_end_mark hx, ih]
      simp only [List.map_cons, List.intercalate_cons_cons]

/-- Pieces in which something is replaced change the length of what they are joined to
    as if it were replaced there. -/
theorem exists_length_intercalate (p r : List Char) : ∀ gs : List (List Char),
    ∃ n, (r.intercalate (gs.map (replaceAll p r))).length + n * p.length
      = (r.intercalate gs).length + n * r.length
  | [] => ⟨0, by simp⟩
  | [g] => by
      rw [List.map_singleton, List.intercalate_singleton, List.intercalate_singleton]
      exact exists_length_replaceAll p r g
  | g :: g' :: gs => by
      obtain ⟨m, hm⟩ := exists_length_replaceAll p r g
      obtain ⟨n, hn⟩ := exists_length_intercalate p r (g' :: gs)
      refine ⟨m + n, ?_⟩
      simp only [List.map_cons, List.intercalate_cons_cons, List.length_append,
        Nat.add_mul] at hn ⊢
      omega

/-- Pieces come back from being replaced and joined only if each one does. -/
theorem intercalate_map_replaceAll_eq_iff {p r : List Char} (hp : p ≠ []) (hr : r ≠ p) :
    ∀ gs : List (List Char), r.intercalate (gs.map (replaceAll p r)) = r.intercalate gs
      ↔ ∀ g ∈ gs, ¬ p <:+: g
  | [] => by simp
  | [g] => by
      rw [List.map_singleton, List.intercalate_singleton, List.intercalate_singleton,
        List.forall_mem_singleton]
      exact replaceAll_eq_self_iff hp hr
  | g :: g' :: gs => by
      have ih := intercalate_map_replaceAll_eq_iff hp hr (g' :: gs)
      rw [List.forall_mem_cons, ← ih, ← replaceAll_eq_self_iff hp hr]
      simp only [List.map_cons, List.intercalate_cons_cons]
      constructor
      · intro h
        -- what the first piece and the others change in length has to add up to nothing
        obtain ⟨m, hm⟩ := exists_length_replaceAll p r g
        obtain ⟨n, hn⟩ := exists_length_intercalate p r (g' :: gs)
        have hlength := congrArg List.length h
        simp only [List.map_cons, List.length_append] at hn hlength
        have hcount : (m + n) * p.length = (m + n) * r.length := by
          simp only [Nat.add_mul]
          omega
        have hsame : (replaceAll p r g).length = g.length := by
          rcases Nat.eq_zero_or_pos (m + n) with hzero | hpos
          · obtain rfl : m = 0 := by omega
            rwa [Nat.zero_mul, Nat.zero_mul] at hm
          · rw [Nat.eq_of_mul_eq_mul_left hpos hcount] at hm
            omega
        rw [List.append_assoc, List.append_assoc] at h
        obtain ⟨hg, hgs⟩ := List.append_inj h hsame
        exact ⟨hg, List.append_cancel_left hgs⟩
      · rintro ⟨hg, hgs⟩
        rw [hg, hgs]

/-- **ONLY THE JOINTS**: a replacement exchanges the pattern between the pieces and
    nothing else exactly if no piece has it inside. -/
theorem replaceAll_intercalate_eq_iff {q r : List Char} {x : Char} (hx : x ∉ q)
    (hr : r ≠ q ++ [x]) (gs : List (List Char)) :
    replaceAll (q ++ [x]) r ((q ++ [x]).intercalate gs) = r.intercalate gs
      ↔ ∀ g ∈ gs, ¬ q ++ [x] <:+: g := by
  rw [replaceAll_intercalate hx]
  exact intercalate_map_replaceAll_eq_iff (by simp) hr gs

end Fixture.Text
