import Fixture.Proofs.Overflow
import Fixture.Proofs.Rewriting
import Fixture.Proofs.Written

/-! # Cells put together from tags

    A template is a list of pieces: bare texts, lookup tags, sentinels, and
    derived tags whose contents are again made of texts and lookup tags.  Its
    source is a cell; its rendering is what a reader expects of that cell, piece
    by piece.

    Resolving works otherwise: kind by kind over the whole text.  So behind each
    pass the text is a **STAGE** of the template, with the pieces of the kinds
    expanded so far in their final form and the others as written.  A pass leads
    from one stage to the next (`Piece.rewrites`), and the sentinels lead from
    the last stage to the rendering. -/

namespace Fixture

open Text

namespace Template

/-! ## Pieces -/

/-- A text without brackets. -/
structure Plain where
  text : List Char
  no_open : '[' ∉ text
  no_close : ']' ∉ text

/-- The kinds of tags that look something up. -/
inductive LookupKind where
  | conf
  | ctxt
deriving DecidableEq, Repr

def LookupKind.kind : LookupKind → TagKind
  | conf => .conf
  | ctxt => .ctxt

/-- The kinds of tags that are computed from their contents. -/
inductive DerivedKind where
  | sha256
  | base64
  | now
deriving DecidableEq, Repr

def DerivedKind.kind : DerivedKind → TagKind
  | sha256 => .sha256
  | base64 => .base64
  | now => .now

/-- A lookup tag. -/
structure Lookup where
  kind : LookupKind
  key : Plain

/-- What the content of a derived tag is made of. -/
inductive Inner where
  | text (t : Plain)
  | lookup (l : Lookup)

/-- What a cell is made of.  Closing brackets are free in its bare texts. -/
inductive Piece where
  | text (t : List Char) (no_open : '[' ∉ t)
  | lookup (l : Lookup)
  | derived (k : DerivedKind) (content : List Inner)
  | sentinel (x : Sentinel)

/-! ## Sources -/

def Lookup.source (l : Lookup) : List Char := l.kind.kind.token l.key.text

def Inner.source : Inner → List Char
  | .text t => t.text
  | .lookup l => l.source

def Piece.source : Piece → List Char
  | .text t _ => t
  | .lookup l => l.source
  | .derived k content => k.kind.token (content.flatMap Inner.source)
  | .sentinel x => x.literal

/-- The lookup tags of a piece, those in the content of a derived tag too. -/
def Piece.lookups : Piece → List Lookup
  | .lookup l => [l]
  | .derived _ content => content.filterMap fun
      | .text _ => none
      | .lookup l => some l
  | .text _ _ | .sentinel _ => []

/-! ## Renderings -/

/-- The text of the value looked up. -/
def Lookup.rendering (r : Resolver) (l : Lookup) : List Char :=
  (r.lookup l.kind.kind l.key.text).render

def Inner.rendering (r : Resolver) : Inner → List Char
  | .text t => t.text
  | .lookup l => l.rendering r

/-- What a derived tag with the given content says.  A `NOW` tag that names no
    moment says itself. -/
def DerivedKind.rendering (r : Resolver) (k : DerivedKind) (c : List Char) :
    List Char :=
  match k with
  | .sha256 => Sha256.hex (c.flatMap String.utf8EncodeChar)
  | .base64 => Base64.encode (c.flatMap String.utf8EncodeChar)
  | .now =>
      match r.clock.renderTag c with
      | .ok (some new) => new
      | _ => TagKind.now.token c

def Piece.rendering (r : Resolver) : Piece → List Char
  | .text t _ => t
  | .lookup l => l.rendering r
  | .derived k content => k.rendering r (content.flatMap (Inner.rendering r))
  | .sentinel x => x.inline

/-- The values looked up bring no brackets into the text, and no shift of a
    `NOW` tag overflows. -/
structure Piece.Tame (r : Resolver) (p : Piece) : Prop where
  no_brackets : ∀ l ∈ p.lookups, '[' ∉ l.rendering r ∧ ']' ∉ l.rendering r
  no_overflow : ∀ content, p = .derived .now content →
    ¬ Shift.Overflowing (Moment.shiftText (content.flatMap (Inner.rendering r)))

/-! ## Stages -/

/-- A lookup tag once some kinds are expanded. -/
def Lookup.stage (r : Resolver) (done : List TagKind) (l : Lookup) : List Char :=
  if l.kind.kind ∈ done then l.rendering r else l.source

def Inner.stage (r : Resolver) (done : List TagKind) : Inner → List Char
  | .text t => t.text
  | .lookup l => l.stage r done

/-- A piece once some kinds are expanded; sentinels come last of all. -/
def Piece.stage (r : Resolver) (done : List TagKind) : Piece → List Char
  | .text t _ => t
  | .lookup l => l.stage r done
  | .derived k content =>
      if k.kind ∈ done then k.rendering r (content.flatMap (Inner.rendering r))
      else k.kind.token (content.flatMap (Inner.stage r done))
  | .sentinel x => x.literal

variable {r : Resolver}

/-- Before all passes stands the source. -/
theorem Inner.stage_nil (i : Inner) : i.stage r [] = i.source := by
  cases i <;> rfl

theorem Piece.stage_nil (p : Piece) : p.stage r [] = p.source := by
  cases p with
  | derived k content =>
      show k.kind.token (content.flatMap (Inner.stage r [])) = _
      rw [source, List.flatMap_congr fun i _ => i.stage_nil]
  | text | lookup | sentinel => rfl

/-- Behind both passes for lookups a lookup is what it is rendered as. -/
theorem Lookup.stage_of_done {done : List TagKind} (hconf : .conf ∈ done)
    (hctxt : .ctxt ∈ done) (l : Lookup) : l.stage r done = l.rendering r := by
  refine if_pos ?_
  cases l.kind with
  | conf => exact hconf
  | ctxt => exact hctxt

theorem Inner.stage_of_done {done : List TagKind} (hconf : .conf ∈ done)
    (hctxt : .ctxt ∈ done) (i : Inner) : i.stage r done = i.rendering r := by
  cases i with
  | text t => rfl
  | lookup l => exact l.stage_of_done hconf hctxt

/-! ## One pass over one piece -/

variable {k : TagKind} {done : List TagKind}

/-- A derived tag says what the pass over its kind writes. -/
theorem DerivedKind.rendering_eq_written (r : Resolver) (d : DerivedKind)
    (c : List Char) : d.rendering r c = r.written d.kind c := by
  cases d <;> rfl

/-- No derived tag brings an opening bracket into the text. -/
theorem DerivedKind.open_not_mem_replacement {d : DerivedKind} {c new : List Char}
    (h : r.replacement d.kind c = .ok (some new)) : '[' ∉ new := by
  cases d with
  | sha256 =>
      obtain rfl := Option.some.inj (Except.ok.inj h)
      exact Sha256.open_not_mem_hex _
  | base64 =>
      obtain rfl := Option.some.inj (Except.ok.inj h)
      exact Base64.open_not_mem_encode _
  | now => exact Moment.open_not_mem_renderTag h

/-- What a derived tag says has no opening bracket, unless it is the tag. -/
theorem DerivedKind.rendering_cases (r : Resolver) (d : DerivedKind) (c : List Char) :
    '[' ∉ d.rendering r c ∨ d.rendering r c = d.kind.token c := by
  rw [rendering_eq_written, Resolver.written]
  cases h : r.replacement d.kind c with
  | error e => exact Or.inr rfl
  | ok new? =>
      cases new? with
      | none => exact Or.inr rfl
      | some new => exact Or.inl (open_not_mem_replacement h)

/-- The pass of its kind replaces a derived tag by what it is rendered as. -/
theorem DerivedKind.rewrites {d : DerivedKind} {c : List Char} (ho : '[' ∉ c)
    (hc : ']' ∉ c)
    (hnow : d = .now → ¬ Shift.Overflowing (Moment.shiftText c)) :
    Rewrites r d.kind (d.kind.token c) (d.rendering r c) := by
  cases h : r.replacement d.kind c with
  | error e =>
      obtain ⟨hd, hover⟩ := Resolver.replacement_error_iff.mp ⟨e, h⟩
      cases d with
      | sha256 | base64 => cases hd
      | now => exact absurd hover (hnow rfl)
  | ok new? =>
      rw [rendering_eq_written, Resolver.written_eq_getD h]
      refine Rewrites.of_tag ho hc h ?_
      rintro new rfl
      exact open_not_mem_replacement h

/-- A pass moves a lookup on by one stage. -/
theorem Lookup.rewrites {l : Lookup} (hl : '[' ∉ l.rendering r) (hk : k ∉ done) :
    Rewrites r k (l.stage r done) (l.stage r (k :: done)) := by
  by_cases hkind : l.kind.kind = k
  · -- the pass over the kind of the tag
    subst hkind
    rw [stage, if_neg hk, stage, if_pos (List.mem_cons_self ..)]
    have hnew : r.replacement l.kind.kind l.key.text = .ok (some (l.rendering r)) := by
      rw [rendering]
      cases l.kind <;> rfl
    refine Rewrites.of_tag l.key.no_open l.key.no_close hnew ?_
    rintro new ⟨⟩
    exact hl
  · have hsame : l.stage r (k :: done) = l.stage r done := by
      simp only [stage, List.mem_cons, hkind, false_or]
    rw [hsame]
    refine Rewrites.of_inert ?_
    by_cases hd : l.kind.kind ∈ done
    · rw [stage, if_pos hd]
      exact k.leads_opening.inert_of_not_mem hl
    · rw [stage, if_neg hd]
      exact TagKind.inert_opening_token (Ne.symm hkind) l.key.no_open

theorem Inner.rewrites {i : Inner} (hi : '[' ∉ i.rendering r) (hk : k ∉ done) :
    Rewrites r k (i.stage r done) (i.stage r (k :: done)) := by
  cases i with
  | text t => exact Rewrites.of_inert (k.leads_opening.inert_of_not_mem hi)
  | lookup l => exact Lookup.rewrites hi hk

/-- The rendered content of a derived tag is made of plain parts. -/
theorem Piece.Tame.plain {d : DerivedKind} {content : List Inner}
    (h : Piece.Tame r (.derived d content)) :
    ∀ i ∈ content, '[' ∉ i.rendering r ∧ ']' ∉ i.rendering r := by
  intro i hi
  cases i with
  | text t => exact ⟨t.no_open, t.no_close⟩
  | lookup l => exact h.no_brackets l (List.mem_filterMap.mpr ⟨_, hi, rfl⟩)

/-- The content of a derived tag is rendered without opening brackets. -/
theorem Piece.Tame.no_open {d : DerivedKind} {content : List Inner}
    (h : Piece.Tame r (.derived d content)) :
    '[' ∉ content.flatMap (Inner.rendering r) := by
  rw [List.mem_flatMap]
  rintro ⟨i, hi, hmem⟩
  exact (h.plain i hi).1 hmem

theorem Piece.Tame.no_close {d : DerivedKind} {content : List Inner}
    (h : Piece.Tame r (.derived d content)) :
    ']' ∉ content.flatMap (Inner.rendering r) := by
  rw [List.mem_flatMap]
  rintro ⟨i, hi, hmem⟩
  exact (h.plain i hi).2 hmem

/-- The pass over one kind goes through the content of a tag of another kind and
    leaves the tag around it. -/
theorem Inner.rewrites_token {k' : TagKind} {content : List Inner} (hne : k ≠ k')
    (hcontent : ∀ i ∈ content, '[' ∉ i.rendering r) (hk : k ∉ done) :
    Rewrites r k (k'.token (content.flatMap (Inner.stage r done)))
      (k'.token (content.flatMap (Inner.stage r (k :: done)))) := by
  have hopen : Inert k.opening k'.opening := TagKind.inert_opening_opening hne
  have hclose : Inert k.opening [']'] := k.leads_opening.inert_of_not_mem (by decide)
  refine ((Rewrites.of_inert hopen).append ?_).append (Rewrites.of_inert hclose)
  exact Rewrites.flatMap fun i hi => Inner.rewrites (hcontent i hi) hk

/-- The tokens of derived tags are found only once their contents are rendered:
    lookups come before all that is computed from them. -/
theorem Piece.rewrites {p : Piece} (hp : p.Tame r) (hk : k ∉ done)
    (horder : ∀ d : DerivedKind, d.kind = k → .conf ∈ done ∧ .ctxt ∈ done) :
    Rewrites r k (p.stage r done) (p.stage r (k :: done)) := by
  cases p with
  | text t no_open => exact Rewrites.of_inert (k.leads_opening.inert_of_not_mem no_open)
  | lookup l =>
      exact Lookup.rewrites (hp.no_brackets l (List.mem_singleton_self l)).1 hk
  | sentinel x => exact Rewrites.of_inert (Sentinel.inert_opening_literal k x)
  | derived d content =>
      by_cases hkind : k = d.kind
      · -- the pass over the kind of the tag
        subst hkind
        obtain ⟨hconf, hctxt⟩ := horder d rfl
        rw [stage, if_neg hk, stage, if_pos (List.mem_cons_self ..),
            List.flatMap_congr fun i _ => i.stage_of_done hconf hctxt]
        refine DerivedKind.rewrites hp.no_open hp.no_close ?_
        rintro rfl
        exact hp.no_overflow content rfl
      · by_cases hd : d.kind ∈ done
        · -- a pass behind it
          rw [stage, if_pos hd, stage, if_pos (List.mem_cons_of_mem k hd)]
          refine Rewrites.of_inert ?_
          rcases d.rendering_cases r (content.flatMap (Inner.rendering r)) with h | h
          · exact k.leads_opening.inert_of_not_mem h
          · rw [h]
            exact TagKind.inert_opening_token hkind hp.no_open
        · -- a pass in front of it
          have hd' : d.kind ∉ k :: done := by
            rw [List.mem_cons]
            rintro (h | h)
            · exact hkind h.symm
            · exact hd h
          rw [stage, if_neg hd, stage, if_neg hd']
          exact Inner.rewrites_token hkind (fun i hi => (hp.plain i hi).1) hk

/-! ## The whole cell -/

/-- The sentinels lead from the last stage to the rendering. -/
theorem inlineAll_stage {t : List Piece} (ht : ∀ p ∈ t, p.Tame r)
    (hdone : ∀ k, k ∈ done) :
    Sentinel.inlineAll (t.flatMap (Piece.stage r done))
      = t.flatMap (Piece.rendering r) := by
  refine Sentinel.inlineAll_flatMap ?_
  intro p hp
  have htame := ht p hp
  cases p with
  | text s no_open =>
      exact Sentinel.Becomes.of_inert fun x => x.leads_literal.inert_of_not_mem no_open
  | sentinel x => exact Or.inr ⟨x, x.mem_order, rfl, rfl⟩
  | lookup l =>
      have hl := (htame.no_brackets l (List.mem_singleton_self l)).1
      rw [Piece.stage, l.stage_of_done (hdone .conf) (hdone .ctxt)]
      exact Sentinel.Becomes.of_inert fun x => x.leads_literal.inert_of_not_mem hl
  | derived d content =>
      rw [Piece.stage, if_pos (hdone d.kind)]
      refine Sentinel.Becomes.of_inert ?_
      intro x
      rcases d.rendering_cases r (content.flatMap (Inner.rendering r)) with h | h
      · exact x.leads_literal.inert_of_not_mem h
      · rw [h]
        exact Sentinel.inert_token htame.no_open

/-- **ALL PASSES**: the value of the source has the rendering as its text. -/
theorem resolveKinds_source {t : List Piece} (ht : ∀ p ∈ t, p.Tame r) :
    (r.resolveKinds TagKind.order (t.flatMap Piece.source)).map Value.render
      = .ok (t.flatMap (Piece.rendering r)) := by
  have pass : ∀ (k : TagKind) (done ks : List TagKind), k ∉ done →
      (∀ d : DerivedKind, d.kind = k → .conf ∈ done ∧ .ctxt ∈ done) →
      (r.resolveKinds (k :: ks) (t.flatMap (Piece.stage r done))).map Value.render
        = (r.resolveKinds ks (t.flatMap (Piece.stage r (k :: done)))).map Value.render := by
    intro k done ks hk horder
    have hrw : Rewrites r k _ _ :=
      Rewrites.flatMap fun p hp => Piece.rewrites (ht p hp) hk horder
    exact hrw.resolveKinds_cons ks
  -- from the source, which is the first stage, to the last one
  rw [← List.flatMap_congr fun p _ => p.stage_nil (r := r), TagKind.order,
      pass .conf [] _ (by decide) (by rintro ⟨⟩ h <;> cases h),
      pass .ctxt _ _ (by decide) (by rintro ⟨⟩ h <;> cases h),
      pass .sha256 _ _ (by decide) (fun _ _ => by decide),
      pass .base64 _ _ (by decide) (fun _ _ => by decide),
      pass .now _ _ (by decide) (fun _ _ => by decide), Resolver.resolveKinds]
  show Except.ok (Value.string _).render = _
  rw [Value.render, String.toList_ofList, inlineAll_stage ht (by rintro ⟨⟩ <;> decide)]

/-- A cell that is one sentinel renders as that sentinel, whatever pieces it was
    put together from. -/
theorem rendering_of_source_eq_literal {t : List Piece} {x : Sentinel}
    (ht : ∀ p ∈ t, p.Tame r) (h : t.flatMap Piece.source = x.literal) :
    t.flatMap (Piece.rendering r) = x.inline := by
  have hx : ∀ p ∈ [Piece.sentinel x], p.Tame r := by
    intro p hp
    obtain rfl := List.mem_singleton.mp hp
    constructor
    · intro l hl
      cases hl
    · intro content h
      cases h
  have hsource : [Piece.sentinel x].flatMap Piece.source = x.literal := List.append_nil _
  -- the passes see the text alone, so both templates come to the same
  have hrun := resolveKinds_source ht
  rw [h, ← hsource, resolveKinds_source hx] at hrun
  have hrendering : [Piece.sentinel x].flatMap (Piece.rendering r) = x.inline :=
    List.append_nil _
  rw [hrendering] at hrun
  exact (Except.ok.inj hrun).symm

end Template

/-! ## Resolved text -/

/-- A sentinel that is a whole cell has the text that it has inside one, but for
    null. -/
theorem Sentinel.render_value {x : Sentinel} (h : x ≠ .null) :
    x.value.render = x.inline := by
  cases x with
  | null => exact absurd rfl h
  | truth | falsity | empty => rfl

open Template in
/-- **TEMPLATES RENDER PIECE BY PIECE**: texts as they are, lookups as their
    values, digests, encodings and moments as those of their rendered contents,
    sentinels as their short texts.  Only null has another text as a whole
    cell. -/
theorem Resolver.resolveText_template (r : Resolver) (t : List Piece)
    (ht : ∀ p ∈ t, p.Tame r)
    (hnull : t.flatMap Piece.source ≠ Sentinel.null.literal) :
    r.resolveText (String.ofList (t.flatMap Piece.source))
      = .ok (String.ofList (t.flatMap (Piece.rendering r))) := by
  have hrender : (r.resolve (String.ofList (t.flatMap Piece.source))).map Value.render
      = .ok (t.flatMap (Piece.rendering r)) := by
    rw [resolve, String.toList_ofList]
    cases hs : Sentinel.ofText? (t.flatMap Piece.source) with
    | none => exact resolveKinds_source ht
    | some x =>
        have hx := Sentinel.eq_literal_of_ofText? hs
        have hne : x ≠ .null := by
          rintro rfl
          exact hnull hx
        rw [rendering_of_source_eq_literal ht hx, ← Sentinel.render_value hne]
        rfl
  rw [resolveText]
  cases hv : r.resolve (String.ofList (t.flatMap Piece.source)) with
  | error e =>
      rw [hv] at hrender
      cases hrender
  | ok v =>
      rw [hv] at hrender
      have hvalue : v.render = t.flatMap (Piece.rendering r) := Except.ok.inj hrender
      rw [← hvalue]
      rfl

open Template in
/-- Lookups beside and inside derived tags, a missing one, a tag of no moment and
    sentinels, one of them without a text. -/
theorem Resolver.resolveText_template_nested :
    let r : Resolver :=
      { environment := .object [("user", .string "ann")]
        scenario := Store.ofList [("id", .bool true)]
        clock := ⟨0, 0, 0⟩ }
    let user : Lookup := ⟨.conf, ⟨"user".toList, by decide, by decide⟩⟩
    let id : Lookup := ⟨.ctxt, ⟨"id".toList, by decide, by decide⟩⟩
    let gone : Lookup := ⟨.ctxt, ⟨"gone".toList, by decide, by decide⟩⟩
    let soon : Plain := ⟨"soon:unix".toList, by decide, by decide⟩
    let t : List Piece :=
      [.lookup user, .text "] ".toList (by decide), .lookup user, .lookup gone,
        .derived .base64 [.lookup id, .text ⟨"!".toList, by decide, by decide⟩],
        .derived .now [.text soon], .sentinel .empty, .sentinel .truth]
    (∀ p ∈ t, p.Tame r)
      ∧ t.flatMap Piece.source ≠ Sentinel.null.literal
      ∧ r.resolveText
          "[CONF:user]] [CONF:user][CTXT:gone][BASE64:[CTXT:id]!][NOW:soon:unix][EMPTY][TRUE]"
        = .ok "ann] ann<nil>dHJ1ZSE=[NOW:soon:unix]true" := by
  intro r user id gone soon t
  have htame : ∀ p ∈ t, p.Tame r := by
    intro p hp
    have hbrackets : ∀ p ∈ t, ∀ l ∈ p.lookups, '[' ∉ l.rendering r ∧ ']' ∉ l.rendering r := by
      decide +kernel
    refine ⟨hbrackets p hp, ?_⟩
    rintro content rfl
    obtain rfl : content = [.text soon] := by
      simpa [t] using hp
    rw [← Shift.read_error_iff]
    rintro ⟨e, he⟩
    cases he
  have hnull : t.flatMap Piece.source ≠ Sentinel.null.literal := by decide +kernel
  have hsource : String.ofList (t.flatMap Piece.source)
    = "[CONF:user]] [CONF:user][CTXT:gone][BASE64:[CTXT:id]!][NOW:soon:unix][EMPTY][TRUE]" := by
    decide +kernel
  have hrendering : String.ofList (t.flatMap (Piece.rendering r))
    = "ann] ann<nil>dHJ1ZSE=[NOW:soon:unix]true" := by
    decide +kernel
  rw [← hsource, ← hrendering]
  exact ⟨htame, hnull, resolveText_template r t htame hnull⟩

end Fixture
