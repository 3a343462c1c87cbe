import Fixture.Proofs.Sentinels
import Fixture.Proofs.WholeTag

/-! # Texts that resolving leaves alone

    An opening alone is no tag: it takes a closing bracket somewhere behind it.
    A kind that does not occur in a text in this sense is not found by its scan,
    so its pass leaves the text as it is and no value is looked up.  A text in
    which no kind and no sentinel occurs comes through all passes, whatever
    brackets, unclosed openings and unknown tags it has. -/

namespace Fixture

open Text

/-! ## Complete tags -/

namespace TagKind

/-- There is an opening of the kind in the text, and a closing bracket somewhere
    behind it. -/
def OccursIn (k : TagKind) (s : List Char) : Prop := ∃ c, k.token c <:+: s

theorem OccursIn.opening {k : TagKind} {s : List Char} (h : k.OccursIn s) :
    k.opening <:+: s := by
  obtain ⟨c, hc⟩ := h
  have hfront : k.opening <+: k.token c := ⟨c ++ [']'], by simp [token]⟩
  exact hfront.isInfix.trans hc

/-- There is no tag where no opening starts. -/
theorem not_occursIn_of_inert {k : TagKind} {s : List Char} (h : Inert k.opening s) :
    ¬ k.OccursIn s := by
  intro hocc
  have hin : k.opening <:+: s ++ [] := by
    rw [List.append_nil]
    exact hocc.opening
  exact k.opening_ne_nil (List.infix_nil.mp (h.of_infix_append hin))

end TagKind

namespace Segments

/-- Where the kind does not occur, the scan finds no opening, or one that is
    never closed. -/
theorem scan_of_not_occursIn {k : TagKind} {s : List Char} (h : ¬ k.OccursIn s) :
    scan k s = ⟨[], s⟩ := by
  cases hopen : cut? k.opening s with
  | none => exact scan_of_no_opening hopen
  | some gi =>
      obtain ⟨gap, inside⟩ := gi
      cases hclose : cut? [']'] inside with
      | none => exact scan_of_unclosed hopen hclose
      | some ca =>
          obtain ⟨content, after⟩ := ca
          refine absurd ⟨content, gap, after, ?_⟩ h
          rw [eq_of_cut? hopen, eq_of_cut? hclose]
          simp [TagKind.token]

/-- **WHAT THE SCAN MISSES**: it finds nothing exactly if there is no complete
    tag. -/
theorem tags_scan_eq_nil_iff {k : TagKind} {s : List Char} :
    (scan k s).tags = [] ↔ ¬ k.OccursIn s := by
  constructor
  · rintro htags ⟨c, hc⟩
    cases hopen : cut? k.opening s with
    | none => exact cut?_eq_none_iff.mp hopen (TagKind.OccursIn.opening ⟨c, hc⟩)
    | some gi =>
        obtain ⟨gap, inside⟩ := gi
        cases hclose : cut? [']'] inside with
        | some ca =>
            rw [scan_of_closed hopen hclose] at htags
            cases htags
        | none =>
            -- no bracket closes behind the first opening, so the tag ends in front of it
            have hinside : ']' ∉ inside := fun hmem =>
              cut?_eq_none_iff.mp hclose ((List.singleton_infix_iff _ _).mpr hmem)
            rw [eq_of_cut? hopen, List.append_assoc] at hc
            have hgap := infix_of_infix_append (TagKind.close_not_mem_append hinside) hc
            exact not_infix_of_cut? k.opening_ne_nil hopen (TagKind.OccursIn.opening ⟨c, hgap⟩)
  · intro h
    rw [scan_of_not_occursIn h]

end Segments

instance (k : TagKind) (s : List Char) : Decidable (k.OccursIn s) :=
  decidable_of_iff ((Segments.scan k s).tags ≠ [])
    (by rw [ne_eq, Segments.tags_scan_eq_nil_iff, not_not])

/-- Nothing in the text is to be resolved: it has no complete tag of any kind and
    no literal of a sentinel. -/
structure Settled (s : List Char) : Prop where
  no_tag : ∀ k : TagKind, ¬ k.OccursIn s
  no_literal : ∀ x : Sentinel, ¬ x.literal <:+: s

/-- Without an opening bracket there is nothing to resolve. -/
theorem settled_of_no_open {s : List Char} (h : '[' ∉ s) : Settled s where
  no_tag := fun k => TagKind.not_occursIn_of_inert (k.leads_opening.inert_of_not_mem h)
  no_literal := Sentinel.no_literal_of_no_open h

namespace Resolver

/-! ## Passes without a tag -/

variable {r : Resolver} {k : TagKind} {s : List Char}

/-- A pass leaves a text without tags as it is. -/
theorem expand_of_not_occursIn (h : ¬ k.OccursIn s) : r.expand k s = .ok s := by
  rw [expand, Segments.scan_of_not_occursIn h]
  rfl

theorem native?_of_not_occursIn (h : ¬ k.OccursIn s) : r.native? k s = none := by
  rw [native?_eq_bind]
  cases hw : wholeTag? k s with
  | none => rfl
  | some c =>
      obtain ⟨rfl, -⟩ := wholeTag?_eq_some_iff.mp hw
      exact absurd ⟨c, List.infix_rfl⟩ h

/-- **NOTHING TO DO**: the pass over a kind that does not occur is skipped. -/
theorem resolveKinds_cons_of_not_occursIn (ks : List TagKind) (h : ¬ k.OccursIn s) :
    r.resolveKinds (k :: ks) s = r.resolveKinds ks s := by
  rw [resolveKinds, native?_of_not_occursIn h, expand_of_not_occursIn h]
  rfl

/-- The passes over kinds that do not occur are skipped, whatever comes behind
    them. -/
theorem resolveKinds_append_of_not_occursIn (before ks : List TagKind)
    (h : ∀ k ∈ before, ¬ k.OccursIn s) :
    r.resolveKinds (before ++ ks) s = r.resolveKinds ks s := by
  induction before with
  | nil => rfl
  | cons k before ih =>
      have hbefore := ih (fun k' hk' => h k' (List.mem_cons_of_mem k hk'))
      rw [List.cons_append,
          resolveKinds_cons_of_not_occursIn _ (h k (List.mem_cons_self ..)), hbefore]

/-! ## Fixed points -/

/-- A settled text comes through any passes. -/
theorem resolveKinds_of_settled (r : Resolver) (ks : List TagKind) (h : Settled s) :
    r.resolveKinds ks s = .ok (.string (String.ofList s)) := by
  have hpasses := resolveKinds_append_of_not_occursIn (r := r) ks [] fun k _ => h.no_tag k
  rw [List.append_nil] at hpasses
  rw [hpasses, resolveKinds, Sentinel.inlineAll_of_no_literal h.no_literal]

/-- Behind the sentinels a cell is what the passes make of it. -/
theorem resolve_of_ne_literal {cell : String} (h : ∀ x : Sentinel, cell.toList ≠ x.literal) :
    r.resolve cell = r.resolveKinds TagKind.order cell.toList := by
  rw [resolve, Sentinel.ofText?_eq_none_iff.mpr h]

/-- A settled cell is its own value. -/
theorem resolve_eq_self (r : Resolver) {cell : String} (h : Settled cell.toList) :
    r.resolve cell = .ok (.string cell) := by
  have hne : ∀ x : Sentinel, cell.toList ≠ x.literal := by
    intro x hx
    exact h.no_literal x (hx ▸ List.infix_rfl)
  rw [resolve_of_ne_literal hne, resolveKinds_of_settled r _ h, String.ofList_toList]

/-- A cell without brackets is its own value. -/
theorem resolve_of_no_open (r : Resolver) {cell : String} (h : '[' ∉ cell.toList) :
    r.resolve cell = .ok (.string cell) :=
  r.resolve_eq_self (settled_of_no_open h)

/-- **FIXED POINTS**: a settled cell is its own value and its own text, under every
    environment, store and clock; so resolving what a cell came to changes
    nothing more once that is settled. -/
theorem settled_resolves_to_itself (r : Resolver) {cell : String} (h : Settled cell.toList) :
    r.resolve cell = .ok (.string cell)
    ∧ r.resolveText cell = .ok cell
    ∧ ∀ cell₀, r.resolveText cell₀ = .ok cell → r.resolveText cell = r.resolveText cell₀ := by
  have hself := r.resolve_eq_self h
  have htext : r.resolveText cell = .ok cell := by
    rw [resolveText, hself]
    show Except.ok (String.ofList cell.toList) = _
    rw [String.ofList_toList]
  refine ⟨hself, htext, ?_⟩
  intro cell₀ h₀
  rw [htext, h₀]

/-- A captured text with a stray bracket, an unknown tag, an unclosed literal and
    openings that run into each other. -/
theorem settled_resolves_to_itself_captured :
    let text := "a] [conf:x] [TRUE [CON[CTXT:b [CONF:[NOW:1h"
    let r : Resolver :=
      { environment := .object [("x", .bool true)]
        scenario := Store.ofList [("captured", .string text)]
        clock := ⟨0, 0, 0⟩ }
    Settled text.toList
      ∧ r.resolve text = .ok (.string text)
      ∧ r.resolveText "[CTXT:captured]" = .ok text
      ∧ r.resolveText text = r.resolveText "[CTXT:captured]" := by
  intro text r
  have hsettled : Settled text.toList := by
    constructor
    · rintro ⟨⟩ <;> decide +kernel
    · rintro ⟨⟩ <;> decide +kernel
  have hcaptured : r.resolveText "[CTXT:captured]" = .ok text := by decide +kernel
  obtain ⟨hself, -, hagain⟩ := settled_resolves_to_itself r hsettled
  exact ⟨hsettled, hself, hcaptured, hagain _ hcaptured⟩

end Resolver

end Fixture
