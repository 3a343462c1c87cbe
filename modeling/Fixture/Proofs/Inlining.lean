import Fixture.Proofs.Sentinels

/-! # The sentinels in one pass

    Sentinels inside a text are replaced one after another, each in the text that
    the ones before it left.  Going over the text once, from left to right, and
    replacing whichever literal begins is the simpler account of it.

    The two agree for two reasons.  A literal has its opening bracket in front and
    nowhere else, so no two literals overlap.  And what a pass writes begins with
    a character that no literal has, so that no literal comes together across it;
    only the text of the empty sentinel does not, and that one comes last.  The
    invariant of the passes is that no literal that is still to be replaced begins
    where none began before. -/

namespace Fixture

open Text

namespace Sentinel

/-! ## One pass -/

/-- The sentinel whose literal begins a text, and what is left behind it. -/
def beginning? (s : List Char) : Option (Sentinel × List Char) :=
  order.findSome? fun x => (dropFront? x.literal s).map fun rest => (x, rest)

/-- No literal begins a text exactly if none is found there. -/
theorem beginning?_eq_none_iff {s : List Char} :
    beginning? s = none ↔ ∀ x : Sentinel, ¬ x.literal <+: s := by
  rw [beginning?, List.findSome?_eq_none_iff]
  constructor
  · intro h x
    rw [← dropFront?_eq_none_iff, ← Option.map_eq_none_iff]
    exact h x x.mem_order
  · intro h x _
    rw [Option.map_eq_none_iff, dropFront?_eq_none_iff]
    exact h x

theorem eq_append_of_beginning? {s rest : List Char} {x : Sentinel}
    (h : beginning? s = some (x, rest)) : s = x.literal ++ rest := by
  obtain ⟨y, -, hy⟩ := List.exists_of_findSome?_eq_some h
  obtain ⟨rest', hrest, heq⟩ := Option.map_eq_some_iff.mp hy
  obtain ⟨rfl, rfl⟩ := Prod.mk.inj heq
  exact dropFront?_eq_some_iff.mp hrest

/-- Goes over a text once: a literal that begins gives way to its short text, and
    any other character is copied. -/
def inlineOnce (s : List Char) : List Char :=
  match s with
  | [] => []
  | c :: s =>
      match _h : beginning? (c :: s) with
      | some (x, rest) => x.inline ++ inlineOnce rest
      | none => c :: inlineOnce s
termination_by s.length
decreasing_by
  · have hlength := congrArg List.length (eq_append_of_beginning? _h)
    have hliteral : 0 < x.literal.length := List.length_pos_iff.mpr x.literal_ne_nil
    rw [List.length_append] at hlength
    omega
  · exact Nat.lt_succ_self _

/-! ## The passes, from left to right -/

/-- What `x` is replaced by begins with a character that the literal of `y` does
    not have. -/
def Shields (x y : Sentinel) : Prop := ∃ c t, x.inline = c :: t ∧ c ∉ y.literal

theorem shields_of_ne_empty {x : Sentinel} (h : x ≠ .empty) (y : Sentinel) : Shields x y := by
  cases x with
  | empty => exact absurd rfl h
  | truth | falsity | null => cases y <;> exact ⟨_, _, rfl, by decide⟩

/-- **THE ORDER**: the sentinel without a text comes last, so all that is written
    shields from the literals still to be replaced. -/
theorem order_shields : order.Pairwise Shields := by
  have hlast : order.Pairwise fun x _ => x ≠ .empty := by decide
  exact hlast.imp fun hx => shields_of_ne_empty hx _

/-- A pass makes no later literal begin where it did not begin before. -/
theorem Shields.begins_of_begins {x y : Sentinel} {c : Char} {s : List Char}
    (hxy : Shields x y) (h : y.literal <+: c :: replaceAll x.literal x.inline s) :
    y.literal <+: c :: s := by
  obtain ⟨d, t, ht, hd⟩ := hxy
  obtain ⟨q, hq, -⟩ := y.leads_literal
  rw [hq] at h hd ⊢
  rw [ht] at h
  obtain ⟨rfl, hrest⟩ := List.cons_prefix_cons.mp h
  have hdq : d ∉ q := fun hmem => hd (List.mem_cons_of_mem _ hmem)
  exact List.cons_prefix_cons.mpr ⟨rfl, prefix_of_prefix_replaceAll hdq hrest⟩

/-- A character at which none of the literals begins comes through all passes. -/
theorem foldl_replaceAll_cons {xs : List Sentinel} (hxs : xs.Pairwise Shields) {c : Char}
    {s : List Char} (h : ∀ x ∈ xs, ¬ x.literal <+: c :: s) :
    xs.foldl (fun s x => replaceAll x.literal x.inline s) (c :: s)
      = c :: xs.foldl (fun s x => replaceAll x.literal x.inline s) s := by
  induction xs generalizing s with
  | nil => rfl
  | cons x xs ih =>
      obtain ⟨hshields, hxs⟩ := List.pairwise_cons.mp hxs
      rw [List.foldl_cons, List.foldl_cons, replaceAll_cons (h x (List.mem_cons_self ..))]
      refine ih hxs ?_
      intro y hy hbegins
      exact h y (List.mem_cons_of_mem x hy) ((hshields y hy).begins_of_begins hbegins)

/-- A character at which no literal starts stays. -/
theorem inlineAll_cons {c : Char} {s : List Char}
    (h : ∀ x : Sentinel, ¬ x.literal <+: c :: s) : inlineAll (c :: s) = c :: inlineAll s :=
  foldl_replaceAll_cons order_shields fun x _ => h x

/-- A literal in front is inlined, and what follows on its own. -/
theorem inlineAll_literal_append (x : Sentinel) (s : List Char) :
    inlineAll (x.literal ++ s) = x.inline ++ inlineAll s :=
  inlineAll_append (Or.inr ⟨x, x.mem_order, rfl, rfl⟩) s

/-- **ALL PASSES ARE ONE PASS**: both take the same step at every position. -/
theorem inlineAll_eq_inlineOnce (s : List Char) : inlineAll s = inlineOnce s := by
  fun_induction inlineOnce s with
  | case1 => exact inlineAll_nil
  | case2 c s x rest h ih =>
      rw [eq_append_of_beginning? h, inlineAll_literal_append, ih]
  | case3 c s h ih =>
      rw [inlineAll_cons (beginning?_eq_none_iff.mp h), ih]

/-! ## Literals in a text -/

/-- No literal begins in front of another one and ends behind its beginning. -/
theorem not_begins_of_append {a t : List Char} (ha : a ≠ []) (x : Sentinel)
    (h : ∀ y : Sentinel, ¬ y.literal <+: a) (y : Sentinel) :
    ¬ y.literal <+: a ++ (x.literal ++ t) :=
  fun hy => h y (y.leads_literal.prefix_of_prefix_append x.leads_literal ha hy)

/-- **EACH LITERAL FOR ITSELF**: what stands in front of a literal and what stands
    behind it are replaced as if they stood alone. -/
theorem inlineAll_around_literal (before : List Char) (x : Sentinel) (after : List Char) :
    inlineAll (before ++ x.literal ++ after)
      = inlineAll before ++ x.inline ++ inlineAll after := by
  simp only [List.append_assoc]
  -- by induction along the one pass over the front
  induction before using inlineOnce.induct with
  | case1 =>
      rw [inlineAll_nil, List.nil_append, List.nil_append, inlineAll_literal_append]
  | case2 c s y rest h ih =>
      rw [eq_append_of_beginning? h, List.append_assoc, inlineAll_literal_append,
          inlineAll_literal_append, ih, List.append_assoc]
  | case3 c s h ih =>
      have hnone := beginning?_eq_none_iff.mp h
      have hnone' := not_begins_of_append (t := after) (List.cons_ne_nil c s) x hnone
      rw [List.cons_append] at hnone' ⊢
      rw [inlineAll_cons hnone', inlineAll_cons hnone, ih, List.cons_append]

/-- **SENTINELS AT ONCE**: the passes come to one pass that replaces the literals
    where they begin; every literal gives way to its text, whatever the texts
    around it come to; and what only comes together around an erased literal
    stays. -/
theorem inlineAll_at_once :
    (∀ s, inlineAll s = inlineOnce s)
    ∧ (∀ before x after, inlineAll (before ++ literal x ++ after)
        = inlineAll before ++ x.inline ++ inlineAll after)
    ∧ ∀ before after, (∀ x : Sentinel, ¬ x.literal <:+: before) →
        (∀ x : Sentinel, ¬ x.literal <:+: after) →
        inlineAll (before ++ literal .empty ++ after) = before ++ after := by
  refine ⟨inlineAll_eq_inlineOnce, inlineAll_around_literal, ?_⟩
  intro before after hbefore hafter
  rw [inlineAll_around_literal, inlineAll_of_no_literal hbefore,
      inlineAll_of_no_literal hafter]
  simp [inline]

/-- A literal around an erased one stays, and one inside another keeps it from
    being one. -/
theorem inlineAll_at_once_erased :
    inlineAll "[TR[EMPTY]UE] [FA[TRUE]LSE] [[NULL]]".toList = "[TRUE] [FAtrueLSE] [null]".toList
      ∧ inlineAll "[TR[EMPTY]UE]".toList = "[TRUE]".toList := by
  obtain ⟨honce, -, hstays⟩ := inlineAll_at_once
  refine ⟨?_, ?_⟩
  · rw [honce]
    decide +kernel
  · refine hstays "[TR".toList "UE]".toList ?_ ?_
    · rintro ⟨⟩ <;> decide
    · rintro ⟨⟩ <;> decide

end Sentinel

end Fixture
