import Fixture.Value

/-! # The scenario store

    Values recorded under keys while a scenario runs.  A key that was never
    recorded reads as null. -/

namespace Fixture

/-- Recorded values; a key occurs once. -/
structure Store where
  entries : List (String × Value)
deriving Inhabited

namespace Store

def empty : Store := ⟨[]⟩

/-- The value recorded under a key. -/
def get? (s : Store) (key : String) : Option Value := s.entries.lookup key

/-- The value recorded under a key, null without one. -/
def get (s : Store) (key : String) : Value := (s.get? key).getD .null

/-- Forgets a key. -/
def erase (s : Store) (key : String) : Store :=
  ⟨s.entries.filter fun e => e.1 ≠ key⟩

/-- Records a value, replacing what the key held. -/
def put (s : Store) (key : String) (value : Value) : Store :=
  ⟨(key, value) :: (s.erase key).entries⟩

/-- Records values one after another. -/
def ofList (es : List (String × Value)) : Store :=
  es.foldl (fun s e => s.put e.1 e.2) empty

/-- The number of keys. -/
def size (s : Store) : Nat := s.entries.length

def isEmpty (s : Store) : Bool := s.entries.isEmpty

theorem get?_put (s : Store) (key : String) (value : Value) (k : String) :
    (s.put key value).get? k = if k = key then some value else s.get? k := by
  by_cases h : k = key
  · simp [get?, put, h]
  · have hb : (k == key) = false := by simp [h]
    rw [if_neg h]
    show List.lookup k ((key, value) :: _) = _
    rw [List.lookup_cons, hb]
    show List.lookup k (s.entries.filter _) = List.lookup k s.entries
    induction s.entries with
    | nil => rfl
    | cons e es ih =>
        by_cases he : e.1 = key
        · have hk : (k == e.1) = false := by simp [he, h]
          rw [List.filter_cons_of_neg (by simp [he]), ih]
          obtain ⟨a, b⟩ := e
          rw [List.lookup_cons, hk]
        · rw [List.filter_cons_of_pos (by simp [he])]
          obtain ⟨a, b⟩ := e
          rw [List.lookup_cons, List.lookup_cons, ih]

end Store

end Fixture
