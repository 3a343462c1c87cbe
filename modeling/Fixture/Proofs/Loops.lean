import Mathlib.Data.List.Forall2
import Fixture.Edit

/-! # Where a loop stops

    A binder works through a table from the top and stops at the first row that
    it cannot use.  Said once for every loop: what a loop fails with is what is
    wrong with the first entry that something is wrong with.  A loop of edits
    looks at an entry in the state that the entries before it have left. -/

namespace Fixture

variable {ε σ α β : Type}

/-- Why a computation gives nothing. -/
def failure? : Except ε α → Option ε
  | .ok _ => none
  | .error e => some e

theorem failure?_eq_some_iff {x : Except ε α} {e : ε} :
    failure? x = some e ↔ x = .error e := by
  cases x with
  | ok a => exact iff_of_false (fun h => nomatch h) (fun h => nomatch h)
  | error e' =>
      constructor
      · intro h
        rw [Option.some.inj h]
      · intro h
        rw [h]
        rfl

theorem failure?_eq_none_iff {x : Except ε α} :
    failure? x = none ↔ ∃ a, x = .ok a := by
  cases x with
  | ok a => exact iff_of_true rfl ⟨a, rfl⟩
  | error e =>
      refine iff_of_false (fun h => nomatch h) ?_
      rintro ⟨a, ha⟩
      cases ha

/-- What cannot fail in the end fails where it begins. -/
theorem failure?_bind_of_ok {x : Except ε α} {f : α → Except ε β}
    (h : ∀ a, x = .ok a → failure? (f a) = none) : failure? (x >>= f) = failure? x := by
  cases x with
  | ok a => exact h a rfl
  | error e => rfl

/-- Two steps succeed if the first one does and the second one does behind it. -/
theorem bind_eq_ok_iff {x : Except ε α} {f : α → Except ε β} {b : β} :
    x >>= f = .ok b ↔ ∃ a, x = .ok a ∧ f a = .ok b := by
  cases x with
  | ok a =>
      constructor
      · intro h
        exact ⟨a, rfl, h⟩
      · rintro ⟨a', ha, h⟩
        obtain rfl := Except.ok.inj ha
        exact h
  | error e =>
      refine iff_of_false (fun h => nomatch h) ?_
      rintro ⟨a, ha, -⟩
      cases ha

theorem map_eq_ok_iff {x : Except ε α} {f : α → β} {b : β} :
    x.map f = .ok b ↔ ∃ a, x = .ok a ∧ b = f a := by
  cases x with
  | ok a =>
      constructor
      · intro h
        exact ⟨a, rfl, (Except.ok.inj h).symm⟩
      · rintro ⟨a', ha, rfl⟩
        obtain rfl := Except.ok.inj ha
        rfl
  | error e =>
      refine iff_of_false (fun h => nomatch h) ?_
      rintro ⟨a, ha, -⟩
      cases ha

/-- Two steps fail if the first one does, or the second one behind it. -/
theorem bind_eq_error_iff {x : Except ε α} {f : α → Except ε β} {e : ε} :
    x >>= f = .error e ↔ x = .error e ∨ ∃ a, x = .ok a ∧ f a = .error e := by
  cases x with
  | ok a =>
      constructor
      · intro h
        exact Or.inr ⟨a, rfl, h⟩
      · rintro (h | ⟨a', ha, h⟩)
        · cases h
        · obtain rfl := Except.ok.inj ha
          exact h
  | error e' =>
      constructor
      · intro h
        exact Or.inl (congrArg _ (Except.error.inj h))
      · rintro (h | ⟨a, ha, -⟩)
        · exact congrArg _ (Except.error.inj h)
        · cases ha

theorem map_eq_error_iff {x : Except ε α} {f : α → β} {e : ε} :
    x.map f = .error e ↔ x = .error e := by
  cases x with
  | ok a => exact iff_of_false (fun h => nomatch h) (fun h => nomatch h)
  | error e' =>
      constructor
      · intro h
        rw [Except.error.inj h]
      · intro h
        rw [Except.error.inj h]
        rfl

theorem mapError_eq_ok_iff {ε' : Type} {x : Except ε α} {f : ε → ε'} {a : α} :
    x.mapError f = .ok a ↔ x = .ok a := by
  cases x with
  | ok a' =>
      constructor
      · intro h
        rw [Except.ok.inj h]
      · intro h
        rw [Except.ok.inj h]
        rfl
  | error e => exact iff_of_false (fun h => nomatch h) (fun h => nomatch h)

/-! ## Lists that belong together -/

/-- Everything in a list has its counterpart exactly if there is a list of
    them. -/
theorem exists_forall₂_iff {R : α → β → Prop} {l : List α} :
    (∃ m, List.Forall₂ R l m) ↔ ∀ a ∈ l, ∃ b, R a b := by
  induction l with
  | nil => exact iff_of_true ⟨[], .nil⟩ (fun a ha => nomatch ha)
  | cons a l ih =>
      rw [List.forall_mem_cons, ← ih]
      constructor
      · rintro ⟨m, h⟩
        obtain ⟨b, m, hb, hm, rfl⟩ := List.forall₂_cons_left_iff.mp h
        exact ⟨⟨b, hb⟩, m, hm⟩
      · rintro ⟨⟨b, hb⟩, m, hm⟩
        exact ⟨b :: m, .cons hb hm⟩

/-- The counterparts are divided where the list is. -/
theorem forall₂_append_left {R : α → β → Prop} {l₁ l₂ : List α} {m : List β}
    (h : List.Forall₂ R (l₁ ++ l₂) m) :
    ∃ m₁ m₂, m = m₁ ++ m₂ ∧ List.Forall₂ R l₁ m₁ ∧ List.Forall₂ R l₂ m₂ := by
  refine ⟨m.take l₁.length, m.drop l₁.length, (List.take_append_drop ..).symm, ?_, ?_⟩
  · have := List.forall₂_take l₁.length h
    rwa [List.take_left] at this
  · have := List.forall₂_drop l₁.length h
    rwa [List.drop_left] at this

/-- What holds of the counterpart of anything holds of all counterparts. -/
theorem forall_mem_of_forall₂_right {R : α → β → Prop} {P : β → Prop} {l : List α}
    {m : List β} (h : List.Forall₂ R l m) (hP : ∀ a b, R a b → P b) : ∀ b ∈ m, P b := by
  induction h with
  | nil => exact fun b hb => nomatch hb
  | cons hab _ ih => exact List.forall_mem_cons.mpr ⟨hP _ _ hab, ih⟩

/-- What something has in a list, its counterpart has among the counterparts. -/
theorem exists_mem_iff_of_forall₂ {R : α → β → Prop} {P : α → Prop} {Q : β → Prop}
    {l : List α} {m : List β} (h : List.Forall₂ R l m) (hPQ : ∀ a b, R a b → (P a ↔ Q b)) :
    (∃ a ∈ l, P a) ↔ ∃ b ∈ m, Q b := by
  induction h with
  | nil => exact iff_of_false (fun ⟨_, ha, _⟩ => nomatch ha) (fun ⟨_, hb, _⟩ => nomatch hb)
  | cons hab _ ih =>
      rw [List.exists_mem_cons_iff, List.exists_mem_cons_iff, hPQ _ _ hab, ih]

/-! ## The first fault -/

/-- What is wrong with the first entry of a list that something is wrong with.
    The entries are numbered from zero. -/
def first? (fault : Nat → α → Option β) (l : List α) : Option β :=
  l.zipIdx.findSome? fun (a, i) => fault i a

/-- The first fault is that of the head, or else the first in the tail. -/
theorem first?_cons (fault : Nat → α → Option β) (a : α) (l : List α) :
    first? fault (a :: l) = (fault 0 a).or (first? (fun i => fault (i + 1)) l) := by
  rw [first?, List.zipIdx_cons, List.zipIdx_succ, List.findSome?_cons, List.findSome?_map]
  show (match fault 0 a with
    | some e => some e
    | none => first? (fun i => fault (i + 1)) l) = _
  cases fault 0 a <;> rfl

/-- The numbers of the entries, from `n` on, may be written beside them. -/
theorem first?_zipIdx (fault : Nat → Nat → α → Option β) (l : List α) (n : Nat) :
    first? (fun i e => fault i e.2 e.1) (l.zipIdx n)
      = first? (fun i a => fault i (n + i) a) l := by
  induction l generalizing fault n with
  | nil => rfl
  | cons a l ih =>
      rw [List.zipIdx_cons, first?_cons, first?_cons, ih fun i => fault (i + 1)]
      simp only [Nat.add_zero, Nat.add_assoc, Nat.add_comm 1]

/-- The first fault depends only on the faults at places in the list. -/
theorem first?_congr {f g : Nat → α → Option β} {l : List α}
    (h : ∀ i a, l[i]? = some a → f i a = g i a) : first? f l = first? g l := by
  induction l generalizing f g with
  | nil => rfl
  | cons a l ih =>
      rw [first?_cons, first?_cons, h 0 a rfl,
        ih fun i a' ha' => h (i + 1) a' ha']

/-- Mapping the first fault is mapping them all. -/
theorem map_first? {γ : Type} (g : β → γ) (fault : Nat → α → Option β) (l : List α) :
    (first? fault l).map g = first? (fun i a => (fault i a).map g) l :=
  List.map_findSome?

/-- **THE FIRST FAULT** is that of the entry with the smallest number among the
    faulty ones. -/
theorem first?_eq_some_iff {fault : Nat → α → Option β} {l : List α} {e : β} :
    first? fault l = some e
      ↔ ∃ i a, l[i]? = some a ∧ fault i a = some e
        ∧ ∀ j < i, ∀ a', l[j]? = some a' → fault j a' = none := by
  -- behind its first entry the list is numbered from zero again
  induction l generalizing fault with
  | nil =>
      refine iff_of_false (fun h => nomatch h) ?_
      rintro ⟨i, a, ha, -⟩
      cases ha
  | cons a l ih =>
      rw [first?_cons]
      cases h : fault 0 a with
      | some e' =>
          constructor
          · intro he
            refine ⟨0, a, rfl, h.trans he, ?_⟩
            intro j hj
            exact absurd hj (Nat.not_lt_zero j)
          · rintro ⟨i, a', ha, he, hmin⟩
            cases i with
            | zero =>
                obtain rfl := Option.some.inj ha
                exact h.symm.trans he
            | succ i =>
                have := hmin 0 (Nat.succ_pos i) a rfl
                rw [h] at this
                cases this
      | none =>
          rw [Option.none_or, ih]
          constructor
          · rintro ⟨i, a', ha, he, hmin⟩
            refine ⟨i + 1, a', ha, he, ?_⟩
            intro j hj a'' ha''
            cases j with
            | zero =>
                obtain rfl := Option.some.inj ha''
                exact h
            | succ j => exact hmin j (Nat.lt_of_succ_lt_succ hj) a'' ha''
          · rintro ⟨i, a', ha, he, hmin⟩
            cases i with
            | zero =>
                obtain rfl := Option.some.inj ha
                rw [h] at he
                cases he
            | succ i =>
                refine ⟨i, a', ha, he, ?_⟩
                intro j hj a'' ha''
                exact hmin (j + 1) (Nat.succ_lt_succ hj) a'' ha''

/-- There is none if there is none anywhere. -/
theorem first?_eq_none_iff {fault : Nat → α → Option β} {l : List α} :
    first? fault l = none ↔ ∀ i a, l[i]? = some a → fault i a = none := by
  rw [first?, List.findSome?_eq_none_iff]
  constructor
  · intro h i a ha
    exact h (a, i) (List.mem_zipIdx_iff_getElem?.mpr ha)
  · rintro h ⟨a, i⟩ hmem
    exact h i a (List.mem_zipIdx_iff_getElem?.mp hmem)

/-! ## Loops that collect -/

/-- **A LOOP THAT COLLECTS** fails with what its first failing entry fails
    with. -/
theorem failure?_mapM (f : α → Except ε β) (l : List α) :
    failure? (l.mapM f) = first? (fun _ a => failure? (f a)) l := by
  induction l with
  | nil => rfl
  | cons a l ih =>
      rw [List.mapM_cons, first?_cons, ← ih]
      cases f a with
      | error e => rfl
      | ok b =>
          show failure? (l.mapM f >>= fun bs => pure (b :: bs)) = failure? (l.mapM f)
          cases l.mapM f <;> rfl

/-- A loop over counted elements fails with the first fault. -/
theorem failure?_mapM_zipIdx (f : Nat → α → Except ε β) (l : List α) (n : Nat) :
    failure? ((l.zipIdx n).mapM fun e => f e.2 e.1)
      = first? (fun i a => failure? (f (n + i) a)) l := by
  rw [failure?_mapM]
  exact first?_zipIdx (fun _ k a => failure? (f k a)) l n

/-- A loop that makes no use of the numbers of the entries. -/
theorem mapM_zipIdx {f : Nat → α → Except ε β} {g : α → Except ε β} {l : List α}
    (h : ∀ a ∈ l, ∀ i, f i a = g a) (n : Nat) :
    ((l.zipIdx n).mapM fun e => f e.2 e.1) = l.mapM g := by
  induction l generalizing n with
  | nil => rfl
  | cons a l ih =>
      rw [List.zipIdx_cons, List.mapM_cons, List.mapM_cons, h a (List.mem_cons_self ..),
        ih fun a' ha' => h a' (List.mem_cons_of_mem a ha')]

/-- A loop has the results of its steps, each at its place. -/
theorem mapM_eq_ok_iff {f : α → Except ε β} {l : List α} {bs : List β} :
    l.mapM f = .ok bs ↔ List.Forall₂ (fun a b => f a = .ok b) l bs := by
  induction l generalizing bs with
  | nil =>
      rw [List.forall₂_nil_left_iff]
      constructor
      · intro h
        exact (Except.ok.inj h).symm
      · rintro rfl
        rfl
  | cons a l ih =>
      rw [List.mapM_cons, List.forall₂_cons_left_iff, bind_eq_ok_iff]
      constructor
      · rintro ⟨b, ha, h⟩
        obtain ⟨bs', hl, h⟩ := bind_eq_ok_iff.mp h
        exact ⟨b, bs', ha, ih.mp hl, (Except.ok.inj h).symm⟩
      · rintro ⟨b, bs', ha, hl, rfl⟩
        exact ⟨b, ha, bind_eq_ok_iff.mpr ⟨bs', ih.mpr hl, rfl⟩⟩

/-- The entries of a loop that makes no use of their numbers, each with what it
    comes to. -/
theorem mapM_zipIdx_eq_ok_iff {f : Nat → α → Except ε β} {R : α → β → Prop}
    (h : ∀ i a b, f i a = .ok b ↔ R a b) {l : List α} {bs : List β} (n : Nat) :
    ((l.zipIdx n).mapM fun e => f e.2 e.1) = .ok bs ↔ List.Forall₂ R l bs := by
  rw [mapM_eq_ok_iff]
  simp only [h]
  rw [← List.forall₂_map_left_iff (f := Prod.fst), List.zipIdx_map_fst]

/-! ## Loops of edits -/

namespace Edit

/-- A successful edit hands its state to the next one. -/
theorem bind_of_result {x y : Edit ε σ Unit} {state after : σ}
    (h : result x state = .ok after) : (x >>= fun _ => y) state = y after := by
  rw [result] at h
  show EStateM.bind x (fun _ => y) state = y after
  rw [EStateM.bind]
  cases hx : x state with
  | ok u s =>
      rw [hx] at h
      rw [← Except.ok.inj h]
  | error e s =>
      rw [hx] at h
      cases h

/-- A loop over two lists is one loop behind the other. -/
theorem result_forM_append (f : α → Edit ε σ Unit) (l₁ l₂ : List α) (state : σ) :
    result (forM (l₁ ++ l₂) f) state
      = result (forM l₁ f) state >>= result (forM l₂ f) := by
  rw [List.forM_append, result_bind]

/-- **A LOOP OF WRITES**: edits that compute something without looking at the
    state, and then write it.  The computations come first, the writes after
    all of them. -/
theorem result_forM_of_writes {f : α → Edit ε σ Unit} {g : α → Except ε β}
    {write : σ → β → σ}
    (h : ∀ a state, result (f a) state = (g a).map (write state))
    (l : List α) (state : σ) :
    result (forM l f) state = (l.mapM g).map fun bs => bs.foldl write state := by
  induction l generalizing state with
  | nil => rfl
  | cons a l ih =>
      rw [List.forM_cons, result_bind, h, List.mapM_cons]
      cases g a with
      | error e => rfl
      | ok b =>
          show result (forM l f) (write state b) = _
          rw [ih]
          cases l.mapM g <;> rfl

/-- **A LOOP OF EDITS** fails with what the first failing edit fails with, in the
    state that the edits before it have left. -/
theorem failure?_forM (f : α → Edit ε σ Unit) (l : List α) (state : σ) :
    failure? (result (forM l f) state)
      = first? (fun i a => failure? (result (f a) (leaves (forM (l.take i) f) state))) l := by
  induction l generalizing state with
  | nil => rfl
  | cons a l ih =>
      rw [List.forM_cons, result_bind, first?_cons]
      show _ = (failure? (result (f a) state)).or _
      cases h : result (f a) state with
      | error e => rfl
      | ok after =>
          -- what the edits leave of `state` is what the later ones leave of `after`
          have hstate : ∀ i, leaves (forM ((a :: l).take (i + 1)) f) state
              = leaves (forM (l.take i) f) after := by
            intro i
            rw [List.take_succ_cons, List.forM_cons, leaves, leaves, bind_of_result h]
          simp only [hstate]
          exact ih after

/-- The entries in front of an entry, with their numbers. -/
theorem take_zipIdx (l : List α) (i : Nat) : l.zipIdx.take i = (l.take i).zipIdx := by
  apply List.ext_getElem?
  intro j
  rw [List.getElem?_take, List.getElem?_zipIdx, List.getElem?_zipIdx, List.getElem?_take]
  split <;> rfl

/-- A loop that changes a state fails with the first fault, each step in the state in which
    those in front of it have left it. -/
theorem failure?_forM_zipIdx (f : Nat → α → Edit ε σ Unit) (l : List α) (state : σ) :
    failure? (result (forM l.zipIdx fun e => f e.2 e.1) state)
      = first? (fun i a => failure? (result (f i a)
          (leaves (forM (l.take i).zipIdx fun e => f e.2 e.1) state))) l := by
  rw [failure?_forM]
  simp only [take_zipIdx]
  refine (first?_zipIdx (fun i k a => failure? (result (f k a)
    (leaves (forM (l.take i).zipIdx fun e => f e.2 e.1) state))) l 0).trans ?_
  simp only [Nat.zero_add]

end Edit

end Fixture
