import Mathlib.Data.List.Nodup
import Fixture.Proofs.Dispatch
import Fixture.Proofs.Lowercase

/-! # Which listed names take values

    The names that are listed are those of the fields that take values, but
    every field is looked up.  A listed name is refused exactly if a field that
    takes no values has it too and is in front of all that take some; any other
    listed name is bound or fails with the fault of a conversion. -/

namespace Fixture.Derive

variable {τ δ : Type}

namespace Arm

/-! ## Keys -/

theorem lowercase_key_of_ofField {f : FieldItem} {a : Arm} (h : ofField f = .ok a) :
    lowercase a.key = a.key := by
  rw [ofField] at h
  obtain ⟨o, -, h⟩ := bind_eq_ok_iff.mp h
  obtain rfl := Except.ok.inj h
  rw [lowercase, String.toList_ofList, Text.lowercase_lowercase]

end Arm

namespace Implementation

/-- Keys are the lower-case forms of themselves, so that a name that is listed
    is looked up as it stands. -/
theorem lowercase_key {item : Item} {i : Implementation} (h : ofItem item = .ok i) :
    ∀ a ∈ i.arms, lowercase a.key = a.key := by
  obtain ⟨-, fields, -, harms⟩ := fields_of_ofItem h
  exact forall_mem_of_forall₂_right harms fun _ _ hf => Arm.lowercase_key_of_ofField hf

theorem mem_names_iff {i : Implementation} {n : String} :
    n ∈ i.names ↔ ∃ a ∈ i.arms, a.key = n ∧ a.skipped = false := by
  rw [names, settable, List.mem_map]
  constructor
  · rintro ⟨a, ha, hkey⟩
    obtain ⟨ha, htakes⟩ := List.mem_filter.mp ha
    exact ⟨a, ha, hkey, by simpa using htakes⟩
  · rintro ⟨a, ha, hkey, htakes⟩
    exact ⟨a, List.mem_filter.mpr ⟨ha, by simpa using htakes⟩, hkey⟩

/-! ## Hidden names -/

/-- A field that takes no values has the name and is in front of every field
    that has the name and takes values. -/
def Hidden (i : Implementation) (n : String) : Prop :=
  ∃ (k : Nat) (a : Arm), i.arms[k]? = some a ∧ a.key = n ∧ a.skipped = true
    ∧ ∀ (j : Nat) (b : Arm), i.arms[j]? = some b → b.key = n → b.skipped = false → k < j

/-- Only the first field with the name can hide the others. -/
theorem hidden_iff_first {i : Implementation} {n : String} :
    i.Hidden n ↔ ∃ k a, Arm.First i.arms n k a ∧ a.skipped = true := by
  constructor
  · rintro ⟨k, a, ha, hkey, hskip, hfront⟩
    -- If the first field took values, the one that takes none would be in front
    -- of the first.
    obtain ⟨j, b, hb⟩ := Arm.exists_first_iff.mpr ⟨a, List.mem_of_getElem? ha, hkey⟩
    cases hb' : b.skipped with
    | true => exact ⟨j, b, hb, hb'⟩
    | false => exact absurd hkey (hb.2.2 k (hfront j b hb.1 hb.2.1 hb') a ha)
  · rintro ⟨k, a, hfirst, hskip⟩
    refine ⟨k, a, hfirst.1, hfirst.2.1, hskip, ?_⟩
    intro j b hb hkey htakes
    refine Nat.lt_of_not_le fun hle => ?_
    rcases Nat.lt_or_eq_of_le hle with hlt | rfl
    · exact hfirst.2.2 j hlt b hb hkey
    · rw [hfirst.1] at hb
      obtain rfl := Option.some.inj hb
      rw [hskip] at htakes
      cases htakes

/-- Where no two fields have the same name, none is hidden. -/
theorem not_hidden_of_nodup {i : Implementation} {n : String}
    (hdistinct : (i.arms.map Arm.key).Nodup) (hn : n ∈ i.names) : ¬ i.Hidden n := by
  rintro ⟨k, a, ha, hkey, hskip, hfront⟩
  obtain ⟨b, hb, hbkey, htakes⟩ := mem_names_iff.mp hn
  obtain rfl := List.inj_on_of_nodup_map hdistinct (List.mem_of_getElem? ha) hb
    (hkey.trans hbkey.symm)
  rw [hskip] at htakes
  cases htakes

/-! ## Binding listed names -/

variable [FieldType τ δ]

/-- **A LISTED NAME** is refused if it is hidden, whatever the value.  If it is
    not, a field that takes values under that name takes this one, or the
    conversion fails.  No other fault is reported, and names that no two fields
    share are not hidden. -/
theorem set_of_mem_names {item : Item} {i : Implementation} (h : ofItem item = .ok i)
    {n : String} (hn : n ∈ i.names) (type : List Token → τ) (v : Value)
    (record : Record δ) :
    (i.Hidden n → i.set type n v record = .error (.fieldNotSettable n item.name) record)
    ∧ (¬ i.Hidden n →
      (∃ (k : Nat) (a : Arm) (d : δ), i.arms[k]? = some a ∧ a.key = n ∧ a.skipped = false
        ∧ FieldType.convert (type a.type) v = .ok d
        ∧ i.set type n v record = .ok () (record.set k d))
      ∨ ∃ e, i.set type n v record = .error (.field n item.name e) record)
    ∧ ((i.arms.map Arm.key).Nodup → ¬ i.Hidden n) := by
  obtain ⟨htarget, -⟩ := fields_of_ofItem h
  obtain ⟨b, hb, hbkey, -⟩ := mem_names_iff.mp hn
  have hlower : lowercase n = n := by
    rw [← hbkey]
    exact lowercase_key h b hb
  rw [← htarget]
  refine ⟨?_, ?_, fun hdistinct => not_hidden_of_nodup hdistinct hn⟩
  · intro hhidden
    obtain ⟨k, a, hfirst, hskip⟩ := hidden_iff_first.mp hhidden
    rw [set_eq_iff]
    exact .refused (hlower.symm ▸ hfirst) hskip
  · intro hhidden
    have hends := i.ends_set type n v record
    generalize hresult : i.set type n v record = result at hends
    cases hends with
    | unknown hnone =>
        rw [hlower] at hnone
        exact absurd hbkey (hnone b hb)
    | refused hfirst hskip =>
        rw [hlower] at hfirst
        exact absurd (hidden_iff_first.mpr ⟨_, _, hfirst, hskip⟩) hhidden
    | failed hfirst hskip he => exact Or.inr ⟨_, rfl⟩
    | stored hfirst hskip hd =>
        rw [hlower] at hfirst
        exact Or.inl ⟨_, _, _, hfirst.1, hfirst.2.1, hskip, hd, rfl⟩

/-- A listed name that no value can be bound to, and another that takes one
    value and fails on the next. -/
theorem set_of_mem_names_hidden :
    let ghost : List Token := [.word "bind", .group .parenthesis
      [.word "skip", Token.sign ",", .word "rename", Token.sign "=", .literal "\"Ghost\""]]
    let item : Item :=
      ⟨[], "Ports", ⟨[], ⟨[], false⟩⟩,
        .fields [⟨[ghost], "hidden", [.word "u16"]⟩, ⟨[], "ghost", [.word "String"]⟩,
          ⟨[], "Port", [.word "u16"]⟩]⟩
    let i : Implementation :=
      ⟨standardRoot, "Ports", ⟨[], ⟨[], false⟩⟩,
        [⟨"ghost", "hidden", [.word "u16"], true⟩, ⟨"ghost", "ghost", [.word "String"], false⟩,
          ⟨"port", "Port", [.word "u16"], false⟩]⟩
    let type : List Token → Shape :=
      fun ts => if Token.startsWithWord "u16" ts then .int .u16 else .text
    let record : Record := [.int 1, .text "a", .int 2]
    ofItem item = .ok i ∧ i.names = ["ghost", "port"] ∧ i.Hidden "ghost" ∧ ¬ i.Hidden "port"
      ∧ i.set type "ghost" (.string "x") record
        = .error (.fieldNotSettable "ghost" "Ports") record
      ∧ ∀ v, (∃ d : Datum, i.set type "port" v record = .ok () (record.set 2 d))
        ∨ ∃ e, i.set type "port" v record = .error (.field "port" "Ports" e) record := by
  intro ghost item i type record
  have hitem : ofItem item = .ok i := by rfl
  have hhidden : i.Hidden "ghost" :=
    hidden_iff_first.mpr ⟨0, _, Arm.first_cons_of_key rfl, rfl⟩
  have hseen : ¬ i.Hidden "port" := by
    rintro ⟨k, a, ha, hkey, hskip, -⟩
    match k with
    | 0 | 1 =>
        obtain rfl := Option.some.inj ha
        exact absurd hkey (by decide)
    | 2 =>
        obtain rfl := Option.some.inj ha
        cases hskip
    | k + 3 => cases ha
  refine ⟨hitem, rfl, hhidden, hseen, ?_, ?_⟩
  · obtain ⟨hrefused, -⟩ :=
      set_of_mem_names hitem (n := "ghost") (by decide) type (.string "x") record
    exact hrefused hhidden
  · intro v
    obtain ⟨-, hbound, -⟩ := set_of_mem_names hitem (n := "port") (by decide) type v record
    obtain ⟨k, a, d, ha, hkey, -, -, hset⟩ | herror := hbound hseen
    · refine Or.inl ⟨d, ?_⟩
      match k with
      | 0 | 1 =>
          obtain rfl := Option.some.inj ha
          exact absurd hkey (by decide)
      | 2 => exact hset
      | k + 3 => cases ha
    · exact Or.inr herror

end Implementation

end Fixture.Derive
