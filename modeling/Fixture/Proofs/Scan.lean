import Fixture.Tag.Scan
import Fixture.Proofs.Search

/-! # What a scan finds

    A scan takes a text apart and loses nothing: writing every tag as its token
    gives the text back.  What it finds in a text that is put together from
    parts is told by the parts: an inert part goes into the gap behind which it
    stands, a token becomes a tag. -/

namespace Fixture

open Text

/-! ## Tokens -/

namespace TagKind

/-- The only opening bracket of an opening is its first character. -/
theorem leads_opening (k : TagKind) : Leads '[' k.opening := by
  cases k <;> exact ⟨_, rfl, by decide⟩

/-- So is that of a tag, unless its content has one. -/
theorem leads_token {k : TagKind} {c : List Char} (hc : '[' ∉ c) :
    Leads '[' (k.token c) :=
  (k.leads_opening.append hc).append (by decide)

theorem close_not_mem_opening (k : TagKind) : ']' ∉ k.opening := by
  cases k <;> decide

/-- The closing bracket of a tag is its last character only. -/
theorem close_not_mem_append {k : TagKind} {c : List Char} (hc : ']' ∉ c) :
    ']' ∉ k.opening ++ c := by
  intro h
  rcases List.mem_append.mp h with h | h
  · exact k.close_not_mem_opening h
  · exact hc h

theorem token_ne_nil (k : TagKind) (c : List Char) : k.token c ≠ [] := by
  simp [token]

/-- Tokens of a kind tell their contents apart. -/
theorem token_injective {k : TagKind} {c d : List Char}
    (h : k.token c = k.token d) : c = d := by
  have h' : k.opening ++ c = k.opening ++ d := List.append_cancel_right h
  exact List.append_cancel_left h'

/-- The opening of one kind does not begin with that of another. -/
theorem eq_of_opening_begins {k k' : TagKind} (h : k.opening <+: k'.opening) :
    k = k' := by
  revert h
  cases k <;> cases k' <;> decide

/-- The opening of another kind is passed over. -/
theorem inert_opening_opening {k k' : TagKind} (h : k ≠ k') :
    Inert k.opening k'.opening :=
  k.leads_opening.inert k'.leads_opening (fun hp => h (eq_of_opening_begins hp))
    (fun hp => h (eq_of_opening_begins hp).symm)

/-- So is a tag of another kind, up to the first bracket in its content. -/
theorem inert_opening_token {k k' : TagKind} {c : List Char} (h : k ≠ k')
    (hc : '[' ∉ c) : Inert k.opening (k'.token c) :=
  ((inert_opening_opening h).append (k.leads_opening.inert_of_not_mem hc)).append
    (k.leads_opening.inert_of_not_mem (by decide))

/-- Tokens end with their only closing bracket, so none begins with another. -/
theorem eq_of_token_begins {k : TagKind} {c d : List Char} (hd : ']' ∉ d)
    (h : k.token c <+: k.token d) : c = d := by
  rcases List.prefix_concat_iff.mp h with h | h
  · exact token_injective h
  · exact absurd (h.subset (by simp [token])) (close_not_mem_append hd)

/-- Of two tokens without opening brackets in their contents one is passed over
    in the search for the other. -/
theorem inert_token_token {k : TagKind} {c d : List Char} (hne : c ≠ d)
    (hco : '[' ∉ c) (hc : ']' ∉ c) (ho : '[' ∉ d) (hd : ']' ∉ d) :
    Inert (k.token c) (k.token d) :=
  (leads_token hco).inert (leads_token ho)
    (fun h => hne (eq_of_token_begins hd h))
    (fun h => hne (eq_of_token_begins hc h).symm)

/-- A text that ends with a tag is passed over in the search for a token that is
    not met in front of the tag: as neither ends the other, the token can neither
    end with the tag nor in front of its closing bracket. -/
theorem inert_append_token {k : TagKind} {c d g : List Char} (hc : ']' ∉ c)
    (hd : ']' ∉ d) (hg : ¬ k.token c <:+: g) (hcd : ¬ k.token c <:+ k.token d)
    (hdc : ¬ k.token d <:+ k.token c) : Inert (k.token c) (g ++ k.token d) := by
  have hassoc : g ++ k.token d = (g ++ (k.opening ++ d)) ++ [']'] := by
    simp only [token, List.append_assoc]
  rw [hassoc]
  refine inert_of_end_mark (close_not_mem_append hc) ?_
  intro hin
  rcases List.infix_concat_iff.mp hin with hsuf | hin
  · rw [← hassoc] at hsuf
    rcases List.suffix_or_suffix_of_suffix hsuf (List.suffix_append g (k.token d)) with h | h
    · exact hcd h
    · exact hdc h
  · exact hg (infix_of_infix_append (close_not_mem_append hd) hin)

end TagKind

namespace Segments

/-! ## Unfolding a scan -/

theorem scan_of_no_opening {k : TagKind} {s : List Char}
    (h : cut? k.opening s = none) : scan k s = ⟨[], s⟩ := by
  rw [scan]
  split
  · rfl
  · rename_i gap inside hs
    rw [h] at hs
    cases hs

theorem scan_nil (k : TagKind) : scan k [] = ⟨[], []⟩ := by
  refine scan_of_no_opening ?_
  rw [cut?_eq_none_iff, List.infix_nil]
  exact k.opening_ne_nil

/-- An opening that is never closed ends the scan. -/
theorem scan_of_unclosed {k : TagKind} {s gap inside : List Char}
    (h : cut? k.opening s = some (gap, inside)) (hin : cut? [']'] inside = none) :
    scan k s = ⟨[], s⟩ := by
  rw [scan]
  split
  · rfl
  · rename_i gap' inside' hs
    rw [h] at hs
    obtain ⟨rfl, rfl⟩ := Prod.mk.inj (Option.some.inj hs)
    split
    · rfl
    · rename_i content after hs'
      rw [hin] at hs'
      cases hs'

/-- An opening that is closed is a tag, and the scan goes on behind it. -/
theorem scan_of_closed {k : TagKind} {s gap inside content after : List Char}
    (h : cut? k.opening s = some (gap, inside))
    (hin : cut? [']'] inside = some (content, after)) :
    scan k s = ⟨⟨gap, content⟩ :: (scan k after).tags, (scan k after).rest⟩ := by
  rw [scan]
  split
  · rename_i hs
    rw [h] at hs
    cases hs
  · rename_i gap' inside' hs
    rw [h] at hs
    obtain ⟨rfl, rfl⟩ := Prod.mk.inj (Option.some.inj hs)
    split
    · rename_i hs'
      rw [hin] at hs'
      cases hs'
    · rename_i content' after' hs'
      rw [hin] at hs'
      obtain ⟨rfl, rfl⟩ := Prod.mk.inj (Option.some.inj hs')
      rfl

/-! ## Joining again -/

theorem join_cons (f : List Char → List Char) (o : Occurrence)
    (tags : List Occurrence) (rest : List Char) :
    join f ⟨o :: tags, rest⟩ = o.gap ++ f o.content ++ join f ⟨tags, rest⟩ := by
  simp only [join, List.flatMap_cons, List.append_assoc]

/-- The contents of the tags, in order. -/
def contents (t : Segments) : List (List Char) := t.tags.map Occurrence.content

/-- How contents are written matters only for those that are there. -/
theorem join_congr {f g : List Char → List Char} {t : Segments}
    (h : ∀ c ∈ t.contents, f c = g c) : t.join f = t.join g := by
  obtain ⟨tags, rest⟩ := t
  induction tags with
  | nil => rfl
  | cons o tags ih =>
      have ho : f o.content = g o.content := h o.content (List.mem_cons_self ..)
      have htags := ih (fun c hc => h c (List.mem_cons_of_mem _ hc))
      rw [join_cons, join_cons, ho, htags]

/-- **NOTHING IS LOST**: with every tag written as its token, the segments of a
    text make up the text. -/
theorem join_scan (k : TagKind) (s : List Char) : (scan k s).join k.token = s := by
  fun_induction scan k s with
  | case1 => rfl
  | case2 => rfl
  | case3 s gap inside h content after hin later ih =>
      rw [join_cons]
      show gap ++ k.token content ++ join k.token later = s
      rw [ih, eq_of_cut? h, eq_of_cut? hin]
      simp [TagKind.token]

/-- A content ends at the first closing bracket. -/
theorem close_not_mem_content {k : TagKind} {s : List Char} :
    ∀ c ∈ (scan k s).contents, ']' ∉ c := by
  fun_induction scan k s with
  | case1 => exact fun c hc => absurd hc List.not_mem_nil
  | case2 => exact fun c hc => absurd hc List.not_mem_nil
  | case3 s gap inside h content after hin later ih =>
      intro c hc
      rcases List.mem_cons.mp hc with rfl | hc
      · intro hmem
        exact not_infix_of_cut? (by simp) hin (List.singleton_infix_iff _ _ |>.mpr hmem)
      · exact ih c hc

/-! ## Scanning a text made of parts -/

/-- The same segments behind a text without tags. -/
def behind (g : List Char) : Segments → Segments
  | ⟨[], rest⟩ => ⟨[], g ++ rest⟩
  | ⟨o :: tags, rest⟩ => ⟨⟨g ++ o.gap, o.content⟩ :: tags, rest⟩

/-- A text in front changes no tag. -/
theorem contents_behind (g : List Char) (t : Segments) :
    (t.behind g).contents = t.contents := by
  obtain ⟨_ | ⟨o, tags⟩, rest⟩ := t <;> rfl

/-- A text in front stays there, however the tags are written. -/
theorem join_behind (f : List Char → List Char) (g : List Char) (t : Segments) :
    (t.behind g).join f = g ++ t.join f := by
  obtain ⟨_ | ⟨o, tags⟩, rest⟩ := t
  · rfl
  · show join f ⟨⟨g ++ o.gap, o.content⟩ :: tags, rest⟩ = g ++ join f ⟨o :: tags, rest⟩
    rw [join_cons, join_cons]
    simp only [List.append_assoc]

/-- A part that is passed over belongs to the gap. -/
theorem scan_inert_append {k : TagKind} {g : List Char} (hg : Inert k.opening g)
    (s : List Char) : scan k (g ++ s) = (scan k s).behind g := by
  have hcut := hg.cut? s
  cases h : cut? k.opening s with
  | none =>
      rw [h] at hcut
      rw [scan_of_no_opening h, scan_of_no_opening hcut]
      rfl
  | some gi =>
      obtain ⟨gap, inside⟩ := gi
      rw [h] at hcut
      cases hin : cut? [']'] inside with
      | none =>
          rw [scan_of_unclosed h hin, scan_of_unclosed hcut hin]
          rfl
      | some ca =>
          obtain ⟨content, after⟩ := ca
          rw [scan_of_closed h hin, scan_of_closed hcut hin]
          rfl

/-- A token is found as a tag. -/
theorem scan_token_append {k : TagKind} {c : List Char} (hc : ']' ∉ c)
    (s : List Char) :
    scan k (k.token c ++ s) = ⟨⟨[], c⟩ :: (scan k s).tags, (scan k s).rest⟩ := by
  have hopen : cut? k.opening (k.token c ++ s) = some ([], c ++ ([']'] ++ s)) := by
    simpa [TagKind.token] using cut?_append_self k.opening (c ++ ([']'] ++ s))
  exact scan_of_closed hopen (cut?_singleton hc s)

end Segments

end Fixture
