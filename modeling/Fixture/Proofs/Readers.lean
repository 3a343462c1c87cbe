import Fixture.Derive.Reader
import Fixture.Proofs.Loops

/-! # Running readers

    What a reader gives is computed one step after another: the step that stands
    first is replaced by what it gives, and the rest goes on with the tokens it
    has left.  The other way round, what was given shows what stood ahead. -/

namespace Fixture.Derive.Reader

variable {α β : Type}

theorem get_bind (f : List Token → Reader α) (ts : List Token) : (get >>= f) ts = f ts ts :=
  rfl

theorem set_bind (s ts : List Token) (f : PUnit → Reader α) :
    (set s >>= f) ts = f ⟨⟩ s :=
  rfl

theorem ahead_bind (test : List Token → Bool) (f : Bool → Reader α) (ts : List Token) :
    (ahead test >>= f) ts = f (test ts) ts :=
  rfl

/-- What follows a reader begins where that has ended. -/
theorem bind_of_ok {x : Reader α} {f : α → Reader β} {s t : List Token} {a : α}
    (h : x s = .ok (a, t)) : (x >>= f) s = f a t := by
  show x s >>= _ = _
  rw [h]
  rfl

theorem bind_of_error {x : Reader α} {f : α → Reader β} {ts : List Token} {e : Fault}
    (h : x ts = .error e) : (x >>= f) ts = .error e := by
  show x ts >>= _ = _
  rw [h]
  rfl

theorem marks_of_some {m : String} {s t : List Token}
    (h : Token.dropMarks? m.toList s = some t) : marks m s = .ok ([Token.sign m], t) := by
  rw [marks, get_bind, h]
  rfl

/-- Marks that are not there are asked for. -/
theorem marks_of_none {m : String} {ts : List Token}
    (h : Token.dropMarks? m.toList ts = none) :
    marks m ts = .error (.expected ("`" ++ m ++ "`") false) := by
  rw [marks, get_bind, h]
  rfl

/-- Marks that may be there are taken if they are. -/
theorem marks?_of_some {m : String} {s t : List Token}
    (h : Token.dropMarks? m.toList s = some t) : marks? m s = .ok ([Token.sign m], t) := by
  rw [marks?, marksOf, get_bind]
  simp only [List.find?_cons, Token.startsWith, h, Option.isSome_some]
  exact marks_of_some h

theorem marks?_of_none {m : String} {ts : List Token}
    (h : Token.dropMarks? m.toList ts = none) : marks? m ts = .ok ([], ts) := by
  rw [marks?, marksOf, get_bind]
  simp only [List.find?_cons, Token.startsWith, h, Option.isSome_none, List.find?_nil]
  rfl

/-! ## What stood ahead -/

/-- Two readers in a row have both succeeded. -/
theorem exists_of_bind {x : Reader α} {f : α → Reader β} {s t : List Token} {b : β}
    (h : (x >>= f) s = .ok (b, t)) : ∃ a u, x s = .ok (a, u) ∧ f a u = .ok (b, t) := by
  obtain ⟨⟨a, u⟩, ha, hb⟩ := Fixture.bind_eq_ok_iff.mp h
  exact ⟨a, u, ha, hb⟩

/-- Marks are dropped one character after another. -/
theorem exists_of_dropMarks? {c : Char} {cs : List Char} {s t : List Token}
    (h : Token.dropMarks? (c :: cs) s = some t) :
    ∃ joint rest, s = .mark (String.singleton c) joint :: rest
      ∧ Token.dropMarks? cs rest = some t := by
  rw [Token.dropMarks?.eq_def] at h
  split at h
  · rename_i heq
    cases heq
  · rename_i heq
    obtain ⟨rfl, rfl⟩ := List.cons.inj heq
    split at h
    · rename_i hmark
      exact ⟨_, _, by rw [hmark.1], h⟩
    · cases h
  · cases h

/-- Marks that were taken can be dropped. -/
theorem dropMarks?_of_marks {m : String} {s t shown : List Token}
    (h : marks m s = .ok (shown, t)) : Token.dropMarks? m.toList s = some t := by
  cases hdrop : Token.dropMarks? m.toList s with
  | none =>
      rw [marks_of_none hdrop] at h
      cases h
  | some u =>
      rw [marks_of_some hdrop] at h
      cases h
      rfl

/-- If a mark of one character was read, it stood ahead. -/
theorem eq_cons_of_marks {c : Char} {s t shown : List Token}
    (h : marks (String.singleton c) s = .ok (shown, t)) :
    ∃ joint, s = .mark (String.singleton c) joint :: t := by
  have hdrop := dropMarks?_of_marks h
  rw [String.toList_singleton] at hdrop
  obtain ⟨joint, rest, rfl, hrest⟩ := exists_of_dropMarks? hdrop
  obtain rfl := Option.some.inj hrest
  exact ⟨joint, rfl⟩

/-- If two colons were read, they stood ahead. -/
theorem eq_cons_of_colons {s t shown : List Token} (h : marks "::" s = .ok (shown, t)) :
    ∃ j j', s = .mark ":" j :: .mark ":" j' :: t := by
  have hdrop : Token.dropMarks? [':', ':'] s = some t := dropMarks?_of_marks h
  obtain ⟨j, rest, rfl, hrest⟩ := exists_of_dropMarks? hdrop
  obtain ⟨j', rest, rfl, hrest⟩ := exists_of_dropMarks? hrest
  obtain rfl := Option.some.inj hrest
  exact ⟨j, j', rfl⟩

/-- Marks that may be missing were read, or nothing was. -/
theorem marks?_cases {m : String} {s t shown : List Token}
    (h : marks? m s = .ok (shown, t)) :
    shown = [] ∧ s = t ∨ shown ≠ [] ∧ marks m s = .ok (shown, t) := by
  cases hdrop : Token.dropMarks? m.toList s with
  | none =>
      rw [marks?_of_none hdrop] at h
      cases h
      exact Or.inl ⟨rfl, rfl⟩
  | some u =>
      rw [marks?_of_some hdrop] at h
      cases h
      exact Or.inr ⟨List.cons_ne_nil _ _, marks_of_some hdrop⟩

end Fixture.Derive.Reader
