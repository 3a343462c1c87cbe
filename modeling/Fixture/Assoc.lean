/-! # Sorted association lists

    Entries in the order of their keys, each key once.  Strings are compared by
    code points. -/

namespace Fixture

/-- Entries under string keys, in the order of the keys. -/
abbrev Assoc (α : Type) := List (String × α)

namespace Assoc

variable {α : Type}

/-- The value of a key. -/
def get? (entries : Assoc α) (key : String) : Option α := entries.lookup key

/-- Sets the value of `key` to `f` of the value it had, in its place among the
    other keys. -/
def alter (f : Option α → α) (key : String) : Assoc α → Assoc α
  | [] => [(key, f none)]
  | (k, v) :: rest =>
      if key < k then (key, f none) :: (k, v) :: rest
      else if key = k then (key, f (some v)) :: rest
      else (k, v) :: alter f key rest

/-- Gives `key` the value `value`. -/
def insert (key : String) (value : α) : Assoc α → Assoc α :=
  alter (fun _ => value) key

/-- Puts entries into order; a repeated key keeps its last value. -/
def ofList (es : List (String × α)) : Assoc α :=
  es.foldl (fun acc e => insert e.1 e.2 acc) []

/-- Appends a value to the list of a key. -/
def push (key : String) (value : α) : Assoc (List α) → Assoc (List α) :=
  alter (fun old => old.getD [] ++ [value]) key

end Assoc

end Fixture
