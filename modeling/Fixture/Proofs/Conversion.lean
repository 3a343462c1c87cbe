import Fixture.Convert.Shape
import Fixture.Proofs.Loops

/-! # What conversions fail with

    A conversion that fails says which text could not be read as which type.
    Options and lists add no fault of another kind, however they are nested. -/

namespace Fixture

namespace Convert

/-- What a conversion fails with says that a text could not be read. -/
def OnlyParses {α : Type} (convert : Value → Except Fault α) : Prop :=
  ∀ v e, convert v = .error e → ∃ target raw why, e = .parse target raw why

variable {α β : Type}

/-- A scalar fails only in reading its text. -/
theorem onlyParses_scalar (target : String) (read : List Char → Except String α) :
    OnlyParses (scalar target read) := by
  intro v e h
  obtain ⟨why, -, he⟩ := scalar_eq_error_iff.mp h
  exact ⟨target, v.text, why, he⟩

/-- Mapping what is converted adds no fault. -/
theorem OnlyParses.map {convert : Value → Except Fault α} (h : OnlyParses convert)
    (f : α → β) : OnlyParses fun v => (convert v).map f :=
  fun v e he => h v e (map_eq_error_iff.mp he)

theorem OnlyParses.optional {inner : Value → Except Fault α} (h : OnlyParses inner) :
    OnlyParses (optional inner) := by
  intro v e he
  rw [Convert.optional] at he
  split at he
  · cases he
  · exact h v e (map_eq_error_iff.mp he)

theorem onlyParses_sourceItems (target : String) : OnlyParses (sourceItems target) := by
  intro v e he
  rw [sourceItems.eq_def] at he
  split at he
  · cases he
  · split at he
    · cases he
    · exact ⟨_, _, _, (Except.error.inj he).symm⟩
  · exact ⟨_, _, _, (Except.error.inj he).symm⟩

/-- An item fails by itself or is of another family than the first. -/
theorem OnlyParses.itemsFrom {item : Value → Except Fault α} (h : OnlyParses item)
    {target : String} {family : Family} {index : Nat} {js : List Json} {e : Fault}
    (he : itemsFrom target family item index js = .error e) :
    ∃ target raw why, e = .parse target raw why := by
  induction js generalizing index with
  | nil => cases he
  | cons j js ih =>
      rw [Convert.itemsFrom] at he
      split at he
      · obtain hx | ⟨x, -, he⟩ := bind_eq_error_iff.mp he
        · exact h _ _ hx
        · obtain hxs | ⟨xs, -, he⟩ := bind_eq_error_iff.mp he
          · exact ih hxs
          · cases he
      · exact ⟨_, _, _, (Except.error.inj he).symm⟩

/-- Items that only fail in reading make an array that only fails so. -/
theorem OnlyParses.items {item : Value → Except Fault α} (h : OnlyParses item)
    {target : String} {js : List Json} {e : Fault} (he : items target item js = .error e) :
    ∃ target raw why, e = .parse target raw why := by
  rw [Convert.items.eq_def] at he
  split at he
  · cases he
  · split at he
    · exact ⟨_, _, _, (Except.error.inj he).symm⟩
    · exact h.itemsFrom he

theorem OnlyParses.list {item : Value → Except Fault α} (h : OnlyParses item)
    (target : String) : OnlyParses (list target item) := by
  intro v e he
  obtain hsource | ⟨source, -, he⟩ := bind_eq_error_iff.mp he
  · exact onlyParses_sourceItems target v e hsource
  · exact h.items he

end Convert

/-- **CONVERSIONS FAIL WITH PARSES**, however options and lists are nested. -/
theorem Shape.onlyParses_convert (s : Shape) : Convert.OnlyParses s.convert := by
  induction s with
  | bool | int | single | double | complex => exact (Convert.onlyParses_scalar _ _).map _
  | text | value | document =>
      intro v e he
      cases he
  | optional inner ih => exact ih.optional.map _
  | list item ih => exact (ih.list _).map _

end Fixture
