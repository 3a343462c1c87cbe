import Fixture.Tag.Sentinel
import Fixture.Proofs.Scan

/-! # Sentinels inside a text

    The literals of the sentinels begin like tags but are none, and none of them
    is met in a tag or in another literal.  So the passes over the sentinels
    write each literal of a text as its short text and leave everything else. -/

namespace Fixture

open Text

namespace Sentinel

/-! ## Literals, tags and bare texts -/

/-- The only opening bracket of a literal is its first character. -/
theorem leads_literal (x : Sentinel) : Leads '[' x.literal := by
  cases x <;> exact ⟨_, rfl, by decide⟩

theorem literal_ne_nil (x : Sentinel) : x.literal ≠ [] := by
  cases x <;> decide

theorem open_not_mem_inline (x : Sentinel) : '[' ∉ x.inline := by
  cases x <;> decide

/-- The literals do not meet one another. -/
theorem inert_literal {x y : Sentinel} (h : x ≠ y) : Inert x.literal y.literal := by
  have h₁ : ¬ x.literal <+: y.literal := by revert h; cases x <;> cases y <;> decide
  have h₂ : ¬ y.literal <+: x.literal := by revert h; cases x <;> cases y <;> decide
  exact x.leads_literal.inert y.leads_literal h₁ h₂

/-- Neither a literal begins an opening nor an opening a literal. -/
theorem not_begins_opening (x : Sentinel) (k : TagKind) :
    ¬ x.literal <+: k.opening ∧ ¬ k.opening <+: x.literal := by
  cases x <;> cases k <;> decide

/-- No tag has a literal in it unless its content has. -/
theorem inert_token {x : Sentinel} {k : TagKind} {c : List Char} (hc : '[' ∉ c) :
    Inert x.literal (k.token c) := by
  obtain ⟨h₁, h₂⟩ := x.not_begins_opening k
  have hk : Inert x.literal k.opening := x.leads_literal.inert k.leads_opening h₁ h₂
  exact (hk.append (x.leads_literal.inert_of_not_mem hc)).append
    (x.leads_literal.inert_of_not_mem (by decide))

/-- No scan finds a tag in a literal. -/
theorem inert_opening_literal (k : TagKind) (x : Sentinel) :
    Inert k.opening x.literal := by
  obtain ⟨h₁, h₂⟩ := x.not_begins_opening k
  exact k.leads_opening.inert x.leads_literal h₂ h₁

/-! ## Whole texts -/

theorem mem_order (x : Sentinel) : x ∈ order := by
  cases x <;> decide

theorem eq_literal_of_ofText? {s : List Char} {x : Sentinel} (h : ofText? s = some x) :
    s = x.literal := by
  have := List.find?_some h
  exact (of_decide_eq_true this).symm

/-- A text is no sentinel exactly if it is none of the literals. -/
theorem ofText?_eq_none_iff {s : List Char} :
    ofText? s = none ↔ ∀ x : Sentinel, s ≠ x.literal := by
  constructor
  · intro h x hx
    have := List.find?_eq_none.mp h x x.mem_order
    exact this (decide_eq_true hx.symm)
  · intro h
    cases hs : ofText? s with
    | none => rfl
    | some x => exact absurd (eq_literal_of_ofText? hs) (h x)

/-! ## The passes -/

/-- By the passes over `xs` the piece `w` becomes `g`: it has none of their
    literals in it and stays, or it is one of them. -/
def Becomes (xs : List Sentinel) (w g : List Char) : Prop :=
  (∀ x ∈ xs, Inert x.literal w) ∧ g = w ∨ ∃ x ∈ xs, w = x.literal ∧ g = x.inline

/-- A text in which no literal starts becomes itself. -/
theorem Becomes.of_inert {xs : List Sentinel} {w : List Char}
    (h : ∀ x : Sentinel, Inert x.literal w) : Becomes xs w w :=
  Or.inl ⟨fun x _ => h x, rfl⟩

/-- What the pass over one sentinel makes of a piece. -/
def pass (x : Sentinel) (w : List Char) : List Char :=
  if w = x.literal then x.inline else w

theorem pass_of_inert {x : Sentinel} {w : List Char} (h : Inert x.literal w) :
    x.pass w = w := by
  refine if_neg ?_
  rintro rfl
  exact h x.literal List.suffix_rfl x.literal_ne_nil [] (List.prefix_append ..)

/-- One pass leaves less to do. -/
theorem Becomes.pass {x : Sentinel} {xs : List Sentinel} {w g : List Char}
    (h : Becomes (x :: xs) w g) : Becomes xs (x.pass w) g := by
  rcases h with ⟨hin, hg⟩ | ⟨y, hy, hw, hg⟩
  · rw [pass_of_inert (hin x (List.mem_cons_self ..))]
    exact Or.inl ⟨fun z hz => hin z (List.mem_cons_of_mem x hz), hg⟩
  · by_cases hxy : x = y
    · subst hxy
      rw [Sentinel.pass, if_pos hw, hg]
      exact of_inert fun z => z.leads_literal.inert_of_not_mem x.open_not_mem_inline
    · rw [hw, pass_of_inert (inert_literal hxy)]
      refine Or.inr ⟨y, ?_, rfl, hg⟩
      rcases List.mem_cons.mp hy with h | hy
      · exact absurd h.symm hxy
      · exact hy

/-- A pass acts on a piece for itself, whatever text stands behind it. -/
theorem Becomes.replaceAll_append {x : Sentinel} {xs : List Sentinel} {w g : List Char}
    (h : Becomes (x :: xs) w g) (s : List Char) :
    replaceAll x.literal x.inline (w ++ s)
      = x.pass w ++ replaceAll x.literal x.inline s := by
  by_cases hw : w = x.literal
  · rw [Sentinel.pass, if_pos hw, hw, replaceAll_append_self x.literal_ne_nil]
  · have hin : Inert x.literal w := by
      rcases h with ⟨hin, -⟩ | ⟨y, -, rfl, -⟩
      · exact hin x (List.mem_cons_self ..)
      · exact inert_literal (fun hxy => hw (congrArg literal hxy.symm))
    rw [hin.replaceAll, pass_of_inert hin]

/-- So do all passes. -/
theorem Becomes.foldl_append {xs : List Sentinel} {w g : List Char}
    (h : Becomes xs w g) (s : List Char) :
    xs.foldl (fun s x => replaceAll x.literal x.inline s) (w ++ s)
      = g ++ xs.foldl (fun s x => replaceAll x.literal x.inline s) s := by
  induction xs generalizing w s with
  | nil =>
      rcases h with ⟨-, rfl⟩ | ⟨x, hx, -⟩
      · rfl
      · cases hx
  | cons x xs ih =>
      rw [List.foldl_cons, List.foldl_cons, h.replaceAll_append, ih h.pass]

/-- A front that becomes another text does so whatever follows. -/
theorem inlineAll_append {w g : List Char} (h : Becomes order w g) (s : List Char) :
    inlineAll (w ++ s) = g ++ inlineAll s :=
  h.foldl_append s

/-- A text without a literal stays. -/
theorem inlineAll_of_no_literal {s : List Char} (h : ∀ x : Sentinel, ¬ x.literal <:+: s) :
    inlineAll s = s := by
  have run : ∀ xs : List Sentinel,
      xs.foldl (fun s x => replaceAll x.literal x.inline s) s = s := by
    intro xs
    induction xs with
    | nil => rfl
    | cons x xs ih =>
        rw [List.foldl_cons, replaceAll_eq_self (h x)]
        exact ih
  exact run order

/-- Without an opening bracket there is no literal. -/
theorem no_literal_of_no_open {s : List Char} (h : '[' ∉ s) (x : Sentinel) :
    ¬ x.literal <:+: s :=
  fun hin => h (hin.subset x.leads_literal.mem)

theorem inlineAll_nil : inlineAll [] = [] :=
  inlineAll_of_no_literal (no_literal_of_no_open List.not_mem_nil)

/-- **SENTINELS IN A TEXT**: the literals among its pieces give way to their
    short texts, pieces without a literal stay. -/
theorem inlineAll_flatMap {α : Type} {ps : List α} {f g : α → List Char}
    (h : ∀ a ∈ ps, Becomes order (f a) (g a)) :
    inlineAll (ps.flatMap f) = ps.flatMap g := by
  induction ps with
  | nil => exact inlineAll_nil
  | cons a ps ih =>
      have hps := ih (fun b hb => h b (List.mem_cons_of_mem a hb))
      rw [List.flatMap_cons, List.flatMap_cons,
          inlineAll_append (h a (List.mem_cons_self ..)), hps]

end Sentinel

end Fixture
