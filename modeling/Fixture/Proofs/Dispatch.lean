import Fixture.Proofs.Binding
import Fixture.Proofs.Conversion
import Fixture.Record.Derived

/-! # Which field a name is bound to

    Binding goes through the fields in the order of the definition, and the
    first one that has the key decides: the fields behind it have no part,
    whether they take values or not.  There are four ways to end, and only one
    of them touches the record, at the position of that field. -/

namespace Fixture.Derive

variable {τ δ : Type}

namespace Arm

/-! ## The first field with a key -/

/-- The field at a position is the first one with a key. -/
def First (arms : List Arm) (key : String) (k : Nat) (a : Arm) : Prop :=
  arms[k]? = some a ∧ a.key = key ∧ ∀ j < k, ∀ b, arms[j]? = some b → b.key ≠ key

theorem First.mem {arms : List Arm} {key : String} {k : Nat} {a : Arm}
    (h : First arms key k a) : a ∈ arms :=
  List.mem_of_getElem? h.1

theorem First.lt_length {arms : List Arm} {key : String} {k : Nat} {a : Arm}
    (h : First arms key k a) : k < arms.length :=
  (List.getElem?_eq_some_iff.mp h.1).1

/-- An arm with the key in front is the first. -/
theorem first_cons_of_key {arms : List Arm} {a : Arm} {key : String} (h : a.key = key) :
    First (a :: arms) key 0 a := by
  refine ⟨rfl, h, ?_⟩
  intro j hj
  exact absurd hj (Nat.not_lt_zero j)

/-- Behind a field with another key the fields are numbered from zero again. -/
theorem first_cons_of_ne {arms : List Arm} {a b : Arm} {key : String} {k : Nat}
    (hb : b.key ≠ key) (h : First arms key k a) : First (b :: arms) key (k + 1) a := by
  obtain ⟨ha, hkey, hmin⟩ := h
  refine ⟨ha, hkey, ?_⟩
  intro j hj c hc
  cases j with
  | zero =>
      obtain rfl := Option.some.inj hc
      exact hb
  | succ j => exact hmin j (Nat.lt_of_succ_lt_succ hj) c hc

/-- Some field has the key exactly if one is the first to have it. -/
theorem exists_first_iff {arms : List Arm} {key : String} :
    (∃ k a, First arms key k a) ↔ ∃ a ∈ arms, a.key = key := by
  constructor
  · rintro ⟨k, a, h⟩
    exact ⟨a, h.mem, h.2.1⟩
  · rintro ⟨a, hmem, hkey⟩
    induction arms with
    | nil => cases hmem
    | cons b arms ih =>
        by_cases hb : b.key = key
        · exact ⟨0, b, first_cons_of_key hb⟩
        · obtain ⟨k, c, hc⟩ := ih ((List.mem_cons.mp hmem).resolve_left (by
            rintro rfl
            exact hb hkey))
          exact ⟨k + 1, c, first_cons_of_ne hb hc⟩

/-! ## Going through the fields -/

variable [FieldType τ δ] {type : List Token → τ} {target name key : String} {v : Value}

/-- Without an arm for it a name is unknown. -/
theorem lookUp_of_none {arms : List Arm} (h : ∀ a ∈ arms, a.key ≠ key) (position : Nat) :
    (lookUp type target name key v position arms : Edit Fixture.Fault (Record δ) Unit)
      = throw (.fieldLookup name target) := by
  induction arms generalizing position with
  | nil => rfl
  | cons a arms ih =>
      rw [lookUp, if_neg (Ne.symm (h a (List.mem_cons_self ..)))]
      exact ih (fun b hb => h b (List.mem_cons_of_mem a hb)) (position + 1)

/-- **THE FIRST FIELD DECIDES**: the fields in front of it are passed by, and
    those behind it are not looked at. -/
theorem lookUp_of_first {arms : List Arm} {k : Nat} {a : Arm} (h : First arms key k a)
    (position : Nat) :
    (lookUp type target name key v position arms : Edit Fixture.Fault (Record δ) Unit)
      = take type target name v (position + k) a := by
  obtain ⟨ha, hkey, hmin⟩ := h
  induction arms generalizing position k with
  | nil => cases ha
  | cons b arms ih =>
      rw [lookUp]
      cases k with
      | zero =>
          obtain rfl := Option.some.inj ha
          rw [if_pos hkey.symm, Nat.add_zero]
      | succ k =>
          rw [if_neg (Ne.symm (hmin 0 (Nat.succ_pos k) b rfl)),
            ih (position + 1) ha fun j hj => hmin (j + 1) (Nat.succ_lt_succ hj),
            Nat.add_right_comm, Nat.add_assoc]

/-! ## The four endings -/

/-- How binding a value to a name ends: which outcome a run may have, and with
    which record. -/
inductive Ends (arms : List Arm) (type : List Token → τ) (target name : String)
    (v : Value) (record : Record δ) : EStateM.Result Fixture.Fault (Record δ) Unit → Prop where
  /-- No field has the name. -/
  | unknown (h : ∀ a ∈ arms, a.key ≠ lowercase name) :
      Ends arms type target name v record (.error (.fieldLookup name target) record)
  /-- The field of the name takes no values. -/
  | refused {k : Nat} {a : Arm} (h : First arms (lowercase name) k a)
      (hskip : a.skipped = true) :
      Ends arms type target name v record (.error (.fieldNotSettable name target) record)
  /-- The value is no value of the type of the field. -/
  | failed {k : Nat} {a : Arm} {e : Fixture.Fault} (h : First arms (lowercase name) k a)
      (hskip : a.skipped = false) (he : FieldType.convert (type a.type) v = .error e) :
      Ends arms type target name v record (.error (.field name target e) record)
  /-- The field holds what the value was converted to. -/
  | stored {k : Nat} {a : Arm} {d : δ} (h : First arms (lowercase name) k a)
      (hskip : a.skipped = false) (hd : FieldType.convert (type a.type) v = .ok d) :
      Ends arms type target name v record (.ok () (record.set k d))

end Arm

namespace Implementation

variable [FieldType τ δ] {type : List Token → τ} {name : String} {v : Value}

/-- Every binding ends in one of the four ways. -/
theorem ends_set (i : Implementation) (type : List Token → τ) (name : String) (v : Value)
    (record : Record δ) :
    Arm.Ends i.arms type i.target name v record (i.set type name v record) := by
  by_cases hsome : ∃ a ∈ i.arms, a.key = lowercase name
  · obtain ⟨k, a, h⟩ := Arm.exists_first_iff.mpr hsome
    rw [set, Arm.lookUp_of_first h, Nat.zero_add, Arm.take]
    cases hskip : a.skipped with
    | true =>
        rw [if_pos rfl]
        exact .refused h hskip
    | false =>
        rw [if_neg Bool.false_ne_true, Arm.assign, Arm.datum]
        cases hd : FieldType.convert (type a.type) v with
        | error e => exact .failed h hskip hd
        | ok d => exact .stored h hskip hd
  · have hnone : ∀ a ∈ i.arms, a.key ≠ lowercase name :=
      fun a ha hkey => hsome ⟨a, ha, hkey⟩
    rw [set, Arm.lookUp_of_none hnone]
    exact .unknown hnone

/-- Binding ends in the one way that its arms allow. -/
theorem set_eq_iff {i : Implementation} {record : Record δ}
    {o : EStateM.Result Fixture.Fault (Record δ) Unit} :
    i.set type name v record = o ↔ Arm.Ends i.arms type i.target name v record o := by
  constructor
  · rintro rfl
    exact i.ends_set type name v record
  · intro h
    cases h with
    | unknown h =>
        rw [set, Arm.lookUp_of_none h]
        rfl
    | refused h hskip =>
        rw [set, Arm.lookUp_of_first h, Arm.take, if_pos hskip]
        rfl
    | failed h hskip he =>
        rw [set, Arm.lookUp_of_first h, Arm.take, hskip, if_neg Bool.false_ne_true,
          Arm.assign, Arm.datum, he]
        rfl
    | stored h hskip hd =>
        rw [set, Arm.lookUp_of_first h, Nat.zero_add, Arm.take, hskip,
          if_neg Bool.false_ne_true, Arm.assign, Arm.datum, hd]
        rfl

/-! ## The schema of a definition -/

/-- A schema finds the field of the first arm. -/
theorem position?_schema_of_first {i : Implementation} {k : Nat} {a : Arm}
    (type : List Token → τ) (h : Arm.First i.arms (lowercase name) k a) :
    (i.schema type).position? name = some k := by
  obtain ⟨ha, hkey, hmin⟩ := h
  obtain ⟨hk, hak⟩ := List.getElem?_eq_some_iff.mp ha
  rw [Schema.position?, schema, List.findIdx?_map, List.findIdx?_eq_some_iff_getElem]
  refine ⟨hk, ?_, ?_⟩
  · simpa [hak] using hkey
  · intro j hj
    simpa using hmin j hj _ (List.getElem?_eq_getElem (Nat.lt_trans hj hk))

theorem position?_schema_of_none {i : Implementation}
    (h : ∀ a ∈ i.arms, a.key ≠ lowercase name) :
    (i.schema type).position? name = none := by
  rw [Schema.position?, schema, List.findIdx?_map, List.findIdx?_eq_none_iff]
  intro a ha
  simpa using h a ha

/-- **A DERIVED STRUCTURE IS A SCHEMA**: a value is bound to the field of a name
    in both alike. -/
theorem set_eq_schema_set (i : Implementation) (type : List Token → τ) (name : String)
    (v : Value) :
    i.set type name v
      = ((i.schema type).set name v : Edit Fixture.Fault (Record δ) Unit) := by
  funext record
  rw [set_eq_iff]
  by_cases hsome : ∃ a ∈ i.arms, a.key = lowercase name
  · obtain ⟨k, a, h⟩ := Arm.exists_first_iff.mpr hsome
    have hpos := position?_schema_of_first type h
    have hfield := (i.schema type).field?_eq_bind name
    rw [hpos, Option.bind_some] at hfield
    have hget : (i.schema type).fields[k]? = some
        ⟨some (String.ofList (plainName a.field)), a.key, a.skipped, type a.type, none⟩ := by
      rw [schema, List.getElem?_map, h.1]
      rfl
    rw [hget] at hfield
    rw [Schema.set, Schema.write, hpos, hfield]
    cases hskip : a.skipped with
    | true => exact .refused h hskip
    | false =>
        dsimp only
        rw [if_neg Bool.false_ne_true]
        cases hd : FieldType.convert (type a.type) v with
        | error e => exact .failed h hskip hd
        | ok d => exact .stored h hskip hd
  · have hnone : ∀ a ∈ i.arms, a.key ≠ lowercase name :=
      fun a ha hkey => hsome ⟨a, ha, hkey⟩
    rw [Schema.set, Schema.write, position?_schema_of_none hnone]
    exact .unknown hnone

/-- Tables fill the records of both alike. -/
theorem bindable_eq_schema_bindable (i : Implementation) (type : List Token → τ) :
    (i.bindable type : Bindable (Record δ)) = (i.schema type).bindable := by
  have hset : (i.set type : String → Value → Edit Fixture.Fault (Record δ) Unit)
      = (i.schema type).set := by
    funext name v
    exact i.set_eq_schema_set type name v
  rw [bindable, hset, start, names, settable]
  rw [Schema.bindable, Schema.bindableFrom, Schema.start, Schema.names]
  simp [schema, List.filter_map, Function.comp_def]

/-! ## What a definition is bound by -/

/-- The fields of a definition, in its order, and its name. -/
theorem fields_of_ofItem {item : Item} {i : Implementation} (h : ofItem item = .ok i) :
    i.target = item.name ∧ ∃ fields, item.body = .fields fields
      ∧ List.Forall₂ (fun f a => Arm.ofField f = .ok a) fields i.arms := by
  rw [ofItem] at h
  obtain ⟨root, -, h⟩ := bind_eq_ok_iff.mp h
  split at h
  · cases h
  · cases h
  · rename_i fields hbody
    obtain ⟨arms, harms, h⟩ := bind_eq_ok_iff.mp h
    obtain rfl := Except.ok.inj h
    exact ⟨rfl, fields, hbody, mapM_eq_ok_iff.mp harms⟩

/-- A record of its own datum for each field but one. -/
theorem set_eq_of_getElem? {record after : Record δ} {k : Nat} {d : δ}
    (hk : k < record.length) (hd : after[k]? = some d)
    (hother : ∀ j, j ≠ k → after[j]? = record[j]?) : after = record.set k d := by
  apply List.ext_getElem?
  intro j
  by_cases hj : j = k
  · rw [hj, hd, List.getElem?_set_self hk]
  · rw [hother j hj, List.getElem?_set_ne (Ne.symm hj)]

/-- **BINDING A NAME**: the first field whose key is the lower-case form of the
    name decides.  It takes the value or fails with the fault of the conversion
    under the name as it was written, or it refuses every value; if there is no
    such field, that is the fault.  Whatever fails leaves the record alone, and
    whatever succeeds changes one field. -/
theorem set_ends {item : Item} {i : Implementation} (h : ofItem item = .ok i)
    (type : List Token → τ) (name : String) (v : Value) (record : Record δ)
    (hrecord : record.length = i.arms.length) :
    (∃ fields, item.body = .fields fields
      ∧ List.Forall₂ (fun f a => Arm.ofField f = .ok a) fields i.arms)
    ∧ (∀ after, i.set type name v record = .ok () after
      ↔ ∃ k a d, Arm.First i.arms (lowercase name) k a ∧ a.skipped = false
        ∧ FieldType.convert (type a.type) v = .ok d
        ∧ after[k]? = some d ∧ ∀ j, j ≠ k → after[j]? = record[j]?)
    ∧ (∀ e after, i.set type name v record = .error e after
      ↔ after = record
        ∧ ((e = .fieldLookup name item.name ∧ ∀ a ∈ i.arms, a.key ≠ lowercase name)
          ∨ (e = .fieldNotSettable name item.name
            ∧ ∃ k a, Arm.First i.arms (lowercase name) k a ∧ a.skipped = true)
          ∨ ∃ k a e', e = .field name item.name e'
            ∧ Arm.First i.arms (lowercase name) k a ∧ a.skipped = false
            ∧ FieldType.convert (type a.type) v = .error e'))
    ∧ ∀ (s : Shape) (e : Fixture.Fault), s.convert v = .error e →
        ∃ target raw why, e = .parse target raw why := by
  obtain ⟨htarget, hfields⟩ := fields_of_ofItem h
  rw [← htarget]
  refine ⟨hfields, ?_, ?_, fun s e he => s.onlyParses_convert v e he⟩
  · intro after
    rw [set_eq_iff]
    constructor
    · intro hends
      cases hends with
      | @stored k a d hfirst hskip hd =>
          have hk : k < record.length := hrecord ▸ hfirst.lt_length
          exact ⟨k, a, d, hfirst, hskip, hd, List.getElem?_set_self hk,
            fun j hj => List.getElem?_set_ne (Ne.symm hj)⟩
    · rintro ⟨k, a, d, hfirst, hskip, hd, hafter, hother⟩
      have hk : k < record.length := hrecord ▸ hfirst.lt_length
      rw [set_eq_of_getElem? hk hafter hother]
      exact .stored hfirst hskip hd
  · intro e after
    rw [set_eq_iff]
    constructor
    · intro hends
      cases hends with
      | unknown hnone => exact ⟨rfl, Or.inl ⟨rfl, hnone⟩⟩
      | refused hfirst hskip => exact ⟨rfl, Or.inr (Or.inl ⟨rfl, _, _, hfirst, hskip⟩)⟩
      | failed hfirst hskip he =>
          exact ⟨rfl, Or.inr (Or.inr ⟨_, _, _, rfl, hfirst, hskip, he⟩)⟩
    · rintro ⟨rfl, ⟨rfl, hnone⟩ | ⟨rfl, k, a, hfirst, hskip⟩ | ⟨k, a, e', rfl, hfirst, hskip, he⟩⟩
      · exact .unknown hnone
      · exact .refused hfirst hskip
      · exact .failed hfirst hskip he

/-- A field that takes no values has the name of one that does, and is in front
    of it. -/
theorem set_ends_ghost :
    let ghost : List Token := [.word "bind", .group .parenthesis
      [.word "skip", Token.sign ",", .word "rename", Token.sign "=", .literal "\"Ghost\""]]
    let item : Item :=
      ⟨[], "Ports", ⟨[], ⟨[], false⟩⟩,
        .fields [⟨[], "r#type", [.word "String"]⟩, ⟨[ghost], "hidden", [.word "u16"]⟩,
          ⟨[], "Port", [.word "u16"]⟩, ⟨[], "ghost", [.word "String"]⟩]⟩
    let i : Implementation :=
      ⟨standardRoot, "Ports", ⟨[], ⟨[], false⟩⟩,
        [⟨"type", "r#type", [.word "String"], false⟩, ⟨"ghost", "hidden", [.word "u16"], true⟩,
          ⟨"port", "Port", [.word "u16"], false⟩, ⟨"ghost", "ghost", [.word "String"], false⟩]⟩
    let type : List Token → Shape :=
      fun ts => if Token.startsWithWord "u16" ts then .int .u16 else .text
    let record : Record := [.text "a", .int 1, .int 2, .text "b"]
    let why := IntType.Fault.invalidDigit.message
    ofItem item = .ok i
      ∧ i.set type "PORT" (.string "80") record
        = .ok () [.text "a", .int 1, .int 80, .text "b"]
      ∧ i.set type "Ghost" (.string "x") record
        = .error (.fieldNotSettable "Ghost" "Ports") record
      ∧ i.set type "Port" (.string "x") record
        = .error (.field "Port" "Ports" (.parse "u16" "x" why)) record
      ∧ i.set type "hidden" (.string "7") record
        = .error (.fieldLookup "hidden" "Ports") record := by
  intro ghost item i type record why
  have hitem : ofItem item = .ok i := by rfl
  have hport : ∀ name, lowercase name = "port"
      → Arm.First i.arms (lowercase name) 2 ⟨"port", "Port", [.word "u16"], false⟩ := by
    intro name hname
    rw [hname]
    exact Arm.first_cons_of_ne (by decide)
      (Arm.first_cons_of_ne (by decide) (Arm.first_cons_of_key rfl))
  have hghost : Arm.First i.arms (lowercase "Ghost") 1 ⟨"ghost", "hidden", [.word "u16"], true⟩ :=
    Arm.first_cons_of_ne (by decide +kernel) (Arm.first_cons_of_key (by decide +kernel))
  refine ⟨hitem, ?_, ?_, ?_, ?_⟩
  · obtain ⟨-, hok, -⟩ := set_ends hitem type "PORT" (.string "80") record rfl
    refine (hok _).mpr ⟨2, _, .int 80, hport _ (by decide +kernel), rfl, by rfl, rfl, ?_⟩
    intro j hj
    match j with
    | 0 | 1 | 3 => rfl
    | 2 => exact absurd rfl hj
    | j + 4 => rfl
  · obtain ⟨-, -, herror, -⟩ := set_ends hitem type "Ghost" (.string "x") record rfl
    exact (herror _ _).mpr ⟨rfl, Or.inr (Or.inl ⟨rfl, 1, _, hghost, rfl⟩)⟩
  · obtain ⟨-, -, herror, -⟩ := set_ends hitem type "Port" (.string "x") record rfl
    exact (herror _ _).mpr
      ⟨rfl, Or.inr (Or.inr ⟨2, _, _, rfl, hport _ (by decide +kernel), rfl, by rfl⟩)⟩
  · obtain ⟨-, -, herror, -⟩ := set_ends hitem type "hidden" (.string "7") record rfl
    exact (herror _ _).mpr ⟨rfl, Or.inl ⟨rfl, by decide +kernel⟩⟩

end Implementation

end Fixture.Derive
