import Fixture.Proofs.Settled

/-! # Passes over texts with simple tags

    Where the tags of a kind have contents without brackets and replacements
    without an opening bracket, a pass can be read off the text from left to
    right: parts in which no tag begins stay, tags with a replacement give way
    to it, tags without one stay.  `Rewrites` is that reading; the pass over
    such a text gives what is read, and so do the passes behind it. -/

namespace Fixture

open Text

variable {r : Resolver} {k : TagKind}

/-- The first text is taken apart into tags of the kind and parts in which none
    begins, and the second has the replacements in place of the tags. -/
inductive Rewrites (r : Resolver) (k : TagKind) : List Char → List Char → Prop where
  | nil : Rewrites r k [] []
  | part {g s s' : List Char} : Inert k.opening g →
      Rewrites r k s s' → Rewrites r k (g ++ s) (g ++ s')
  | tag {c s s' : List Char} {new? : Option (List Char)} : '[' ∉ c → ']' ∉ c →
      r.replacement k c = .ok new? → (∀ new ∈ new?, '[' ∉ new) →
      Rewrites r k s s' →
      Rewrites r k (k.token c ++ s) (new?.getD (k.token c) ++ s')

namespace Rewrites

/-! ## Readings of longer texts -/

/-- Two texts in a row are rewritten one by one. -/
theorem append {s s' t t' : List Char} (hs : Rewrites r k s s')
    (ht : Rewrites r k t t') : Rewrites r k (s ++ t) (s' ++ t') := by
  induction hs with
  | nil => exact ht
  | part hg _ ih =>
      rw [List.append_assoc, List.append_assoc]
      exact part hg ih
  | tag ho hc hr hnew _ ih =>
      rw [List.append_assoc, List.append_assoc]
      exact tag ho hc hr hnew ih

theorem of_inert {g : List Char} (hg : Inert k.opening g) : Rewrites r k g g := by
  have := part (r := r) hg nil
  rwa [List.append_nil] at this

theorem of_tag {c : List Char} {new? : Option (List Char)} (ho : '[' ∉ c)
    (hc : ']' ∉ c) (hr : r.replacement k c = .ok new?)
    (hnew : ∀ new ∈ new?, '[' ∉ new) :
    Rewrites r k (k.token c) (new?.getD (k.token c)) := by
  have := tag ho hc hr hnew nil
  rwa [List.append_nil, List.append_nil] at this

/-- Any number of texts are rewritten one by one. -/
theorem flatMap {α : Type} {f g : α → List Char} {ps : List α}
    (h : ∀ p ∈ ps, Rewrites r k (f p) (g p)) :
    Rewrites r k (ps.flatMap f) (ps.flatMap g) := by
  induction ps with
  | nil => exact nil
  | cons p ps ih =>
      rw [List.flatMap_cons, List.flatMap_cons]
      exact (h p (List.mem_cons_self ..)).append
        (ih (fun q hq => h q (List.mem_cons_of_mem p hq)))

/-! ## What the scan finds -/

/-- Writing the tags that the scan finds gives the second text. -/
theorem join_eq {s s' : List Char} (h : Rewrites r k s s') :
    (Segments.scan k s).join (r.written k) = s' := by
  induction h with
  | nil =>
      rw [Segments.scan_nil]
      rfl
  | part hg _ ih => rw [Segments.scan_inert_append hg, Segments.join_behind, ih]
  | tag ho hc hr hnew _ ih =>
      rw [Segments.scan_token_append hc, Segments.join_cons]
      show [] ++ r.written k _ ++ Segments.join _ (Segments.scan k _) = _
      rw [ih, Resolver.written_eq_getD hr, List.nil_append]

/-- The contents of the tags found have no opening brackets, nor have their
    replacements. -/
theorem of_mem_contents {s s' : List Char} (h : Rewrites r k s s') :
    ∀ c ∈ (Segments.scan k s).contents, '[' ∉ c
      ∧ ∃ new?, r.replacement k c = .ok new? ∧ ∀ new ∈ new?, '[' ∉ new := by
  induction h with
  | nil =>
      rw [Segments.scan_nil]
      exact fun c hc => absurd hc List.not_mem_nil
  | part hg _ ih => rwa [Segments.scan_inert_append hg, Segments.contents_behind]
  | @tag c s s' new? ho hc hr hnew _ ih =>
      rw [Segments.scan_token_append hc]
      intro d hd
      rcases List.mem_cons.mp hd with rfl | hd
      · exact ⟨ho, new?, hr, hnew⟩
      · exact ih d hd

/-- A token that gives way to a replacement does not occur in the second text. -/
theorem not_infix {s s' c new : List Char} (h : Rewrites r k s s') (ho : '[' ∉ c)
    (hc : ']' ∉ c) (hr : r.replacement k c = .ok (some new)) :
    ¬ k.token c <:+: s' := by
  induction h with
  | nil => exact fun hin => k.token_ne_nil c (List.infix_nil.mp hin)
  | part hg _ ih =>
      have hlong : k.opening <+: k.token c := ⟨c ++ [']'], by simp [TagKind.token]⟩
      exact fun hin => ih ((hg.mono hlong).of_infix_append hin)
  | @tag d s s' new? hdo hd hr' hnew _ ih =>
      have hg : Inert (k.token c) (new?.getD (k.token d)) := by
        cases new? with
        | some new' => exact (TagKind.leads_token ho).inert_of_not_mem (hnew new' rfl)
        | none =>
            -- a token that gives way is not one that is kept
            refine TagKind.inert_token_token ?_ ho hc hdo hd
            rintro rfl
            cases hr.symm.trans hr'
      exact fun hin => ih (hg.of_infix_append hin)

/-! ## Passes -/

/-- Tokens whose contents have no opening brackets do not end each other. -/
theorem endsApart {s s' : List Char} (h : Rewrites r k s s') :
    (Segments.scan k s).EndsApart k := by
  intro c hc d hd hend
  have hco : '[' ∉ c := (h.of_mem_contents c hc).1
  have hdo : '[' ∉ d := (h.of_mem_contents d hd).1
  exact TagKind.token_injective
    ((TagKind.leads_token hco).eq_of_ends (TagKind.leads_token hdo) hend)

/-- No token that gives way to a replacement is met again. -/
theorem fresh {s s' : List Char} (h : Rewrites r k s s') :
    (Segments.scan k s).Fresh k (r.written k) := by
  refine Segments.fresh_of_endsApart Segments.close_not_mem_content h.endsApart ?_
  intro i hi hne g hg
  have hmem : (Segments.scan k s).contents[i] ∈ (Segments.scan k s).contents :=
    List.getElem_mem hi
  generalize (Segments.scan k s).contents[i] = c at hne hmem ⊢
  obtain ⟨ho, new?, hr, -⟩ := h.of_mem_contents c hmem
  rw [Resolver.written_eq_getD hr] at hne
  cases new? with
  | none => exact absurd rfl hne
  | some new =>
      -- a stretch is part of the second text, which has no such token
      have hin := Segments.infix_join_of_mem_stretchesFrom _ [] hg
      rw [List.nil_append] at hin
      have hjoin : Segments.join (r.written k) (Segments.scan k s) = s' := h.join_eq
      have hnot := h.not_infix ho (Segments.close_not_mem_content c hmem) hr
      rw [← hjoin] at hnot
      exact fun htoken => hnot (htoken.trans hin)

/-- **A PASS READ OFF THE TEXT**: expanding the kind gives the second text. -/
theorem expand {s s' : List Char} (h : Rewrites r k s s') : r.expand k s = .ok s' := by
  have hrun := Segments.foldl_replaceAll_join
    ((Segments.fresh_iff_turnByTurn Segments.close_not_mem_content).mp h.fresh)
  rw [Segments.join_scan, h.join_eq] at hrun
  cases hx : r.expand k s with
  | error e =>
      obtain ⟨c, hc, e', he⟩ := Resolver.expand_error_iff.mp ⟨e, hx⟩
      obtain ⟨-, new?, hr, -⟩ := h.of_mem_contents c hc
      cases hr.symm.trans he
  | ok t =>
      rw [Resolver.expand_eq_foldl, hrun] at hx
      cases hm : (Segments.scan k s).contents.mapM (r.replacement k) with
      | error e =>
          rw [hm] at hx
          cases hx
      | ok news =>
          rw [hm] at hx
          exact hx.symm

end Rewrites

/-! ## Passes one after another -/

/-- **ONE PASS OF MANY**: the text of the value is the same behind the pass,
    also where a lookup tag is the whole text and gives its value at once. -/
theorem Rewrites.resolveKinds_cons {s s' : List Char} (h : Rewrites r k s s')
    (ks : List TagKind) :
    (r.resolveKinds (k :: ks) s).map Value.render
      = (r.resolveKinds ks s').map Value.render := by
  rw [Resolver.resolveKinds]
  cases hv : r.native? k s with
  | none =>
      show ((r.expand k s >>= fun t => r.resolveKinds ks t)).map _ = _
      rw [h.expand]
      rfl
  | some v =>
      obtain rfl : v.render = s' :=
        Except.ok.inj ((Resolver.expand_of_native? hv).symm.trans h.expand)
      -- the value is given at once, and later passes would leave its text alone
      obtain ⟨c, hc, -, hr⟩ := Resolver.native?_eq_some hv
      have hmem : c ∈ (Segments.scan k s).contents := by
        rw [Resolver.scan_of_wholeTag? hc]
        exact List.mem_cons_self ..
      obtain ⟨-, new?, hnew, hopen⟩ := h.of_mem_contents c hmem
      obtain rfl := Except.ok.inj (hr.symm.trans hnew)
      rw [r.resolveKinds_of_settled ks (settled_of_no_open (hopen v.render rfl))]
      show Except.ok v.render = .ok (Value.string (String.ofList v.render)).render
      rw [Value.render, String.toList_ofList]

end Fixture
