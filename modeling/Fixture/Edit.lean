/-! # Edits

    An edit changes a state in place and may fail on the way.  What it has
    changed by then stays changed, unless the edit works on a copy. -/

namespace Fixture

/-- Changes of a state in place, which may fail. -/
abbrev Edit (ε σ : Type) : Type → Type := EStateM ε σ

/-- What fails without looking at the state leaves the state alone. -/
instance {ε σ : Type} : MonadLift (Except ε) (Edit ε σ) where
  monadLift x := fun state =>
    match x with
    | .ok a => .ok a state
    | .error e => .error e state

namespace Edit

variable {ε ε' σ α : Type}

/-- The state that an edit leaves behind, however it ends. -/
def leaves (x : Edit ε σ Unit) (state : σ) : σ :=
  match x state with
  | .ok _ after | .error _ after => after

/-- The edited state, or why there is none. -/
def result (x : Edit ε σ Unit) (state : σ) : Except ε σ :=
  match x state with
  | .ok _ after => .ok after
  | .error e _ => .error e

/-- The edit of a copy, which takes the place of the state once the edit has
    succeeded. -/
def onCopy (x : Edit ε σ Unit) : Edit ε σ Unit := fun state =>
  match x state with
  | .ok _ copy => .ok () copy
  | .error e _ => .error e state

/-! ## The edited state -/

/-- Edits one after another. -/
theorem result_bind (x y : Edit ε σ Unit) (state : σ) :
    result (x >>= fun _ => y) state = result x state >>= result y := by
  show result (EStateM.bind x fun _ => y) state = _
  rw [result, result, EStateM.bind]
  cases x state <;> rfl

/-- An edit with what a computation gives. -/
theorem result_lift_bind (a? : Except ε α) (f : α → Edit ε σ Unit) (state : σ) :
    result ((liftM a? : Edit ε σ α) >>= f) state = a? >>= fun a => result (f a) state := by
  cases a? <;> rfl

theorem result_adaptExcept (f : ε → ε') (x : Edit ε σ Unit) (state : σ) :
    result (x.adaptExcept f) state = (result x state).mapError f := by
  rw [result, result, EStateM.adaptExcept]
  cases x state <;> rfl

/-- A copy is edited like the state itself. -/
theorem result_onCopy (x : Edit ε σ Unit) (state : σ) :
    result (onCopy x) state = result x state := by
  rw [result, result, onCopy]
  cases x state <;> rfl

/-! ## The state left behind -/

/-- A successful edit leaves the edited state. -/
theorem leaves_of_result {x : Edit ε σ Unit} {state after : σ}
    (h : result x state = .ok after) : leaves x state = after := by
  rw [result] at h
  rw [leaves]
  cases hx : x state with
  | ok u s =>
      rw [hx] at h
      exact Except.ok.inj h
  | error e s =>
      rw [hx] at h
      cases h

/-- **ROLLBACK**: what fails on a copy leaves the state as it was. -/
theorem leaves_onCopy_of_error {x : Edit ε σ Unit} {state : σ} {e : ε}
    (h : result (onCopy x) state = .error e) : leaves (onCopy x) state = state := by
  rw [result_onCopy, result] at h
  rw [leaves, onCopy]
  cases hx : x state with
  | ok u s =>
      rw [hx] at h
      cases h
  | error e' s => rfl

end Edit

end Fixture
