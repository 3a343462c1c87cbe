import Fixture.Proofs.Dispatch
import Fixture.Proofs.Documents

/-! # Whole numbers in untyped fields

    A field that takes any document holds the document of the value that was bound to it.
    There a whole number is an integer below a bound and a double from the bound on.  Both
    stand for the number, but the bound is far below the ends of the 64 bits that integers
    of documents have: what lies between is written with a point or an exponent. -/

namespace Fixture

open Derive (Arm Implementation Token)

namespace Value

variable {x : Binary64} {n : Int}

/-- **BELOW THE BOUND** a whole number becomes the integer that it is. -/
theorem numberToJson_of_lt (hx : x.toRat? = some (n : ℚ)) (hn : n.natAbs < integerBound) :
    ∃ hrange, numberToJson x = .number (.integer n hrange) := by
  have hrange : IntType.i64.least ≤ n ∧ n ≤ IntType.u64.greatest := by
    rw [integerBound] at hn
    rw [IntType.least_i64, IntType.greatest_u64]
    omega
  have hinteger : documentInteger? x = some (.integer n hrange) := by
    rw [documentInteger?, Binary.toInt?_eq_some_iff.mpr hx, Option.bind_eq_bind,
      Option.bind_some, if_pos hn, JsonNumber.ofInt?, dif_pos hrange]
  exact ⟨hrange, by rw [numberToJson, hinteger]⟩

/-- From the bound on it stays the double that it is. -/
theorem numberToJson_of_le (hx : x.toRat? = some (n : ℚ)) (hn : integerBound ≤ n.natAbs) :
    ∃ hfinite, numberToJson x = .number (.real x hfinite) := by
  have hinteger : documentInteger? x = none := by
    rw [documentInteger?, Binary.toInt?_eq_some_iff.mpr hx, Option.bind_eq_bind,
      Option.bind_some, if_neg (Nat.not_lt.mpr hn)]
  have hfinite := Binary.isFinite_of_toRat? hx
  exact ⟨hfinite, by rw [numberToJson, hinteger, JsonNumber.ofReal?, dif_pos hfinite]⟩

/-- **WHOLE NUMBERS IN DOCUMENTS** are integers below the bound and there only, equal to
    the number; from the bound on they are the doubles that they were.  An untyped field
    of a derived structure is given the same document. -/
theorem toJson_whole (hx : x.toRat? = some (n : ℚ)) :
    ((∃ m hrange, (Value.number x).toJson = .number (.integer m hrange))
      ↔ n.natAbs < 9000000000000000)
    ∧ (∀ m hrange, (Value.number x).toJson = .number (.integer m hrange) → m = n)
    ∧ (9000000000000000 ≤ n.natAbs →
      ∃ hfinite, (Value.number x).toJson = .number (.real x hfinite))
    ∧ ∀ (i : Implementation) (type : List Token → Shape) (name : String)
        (k : Nat) (a : Arm) (record : Record),
        Arm.First i.arms (lowercase name) k a → a.skipped = false →
        type a.type = .document →
        i.set type name (.number x) record
          = .ok () (record.set k (.document (Value.number x).toJson)) := by
  have hsame : ∀ m hrange, numberToJson x = .number (.integer m hrange) → m = n := by
    intro m hrange h
    obtain hn | hn := Nat.lt_or_ge n.natAbs integerBound
    · obtain ⟨_, hinteger⟩ := numberToJson_of_lt hx hn
      exact (JsonNumber.integer.inj (Json.number.inj (hinteger.symm.trans h))).symm
    · obtain ⟨_, hreal⟩ := numberToJson_of_le hx hn
      cases hreal.symm.trans h
  refine ⟨⟨?_, ?_⟩, hsame, fun hn => numberToJson_of_le hx hn, ?_⟩
  · rintro ⟨m, hrange, h⟩
    refine Nat.lt_of_not_le fun hn => ?_
    obtain ⟨_, hreal⟩ := numberToJson_of_le hx hn
    cases hreal.symm.trans h
  · intro hn
    obtain ⟨hrange, h⟩ := numberToJson_of_lt hx hn
    exact ⟨n, hrange, h⟩
  · intro i type name k a record hfirst hskip htype
    refine Implementation.set_eq_iff.mpr (.stored hfirst hskip ?_)
    rw [htype]
    rfl

/-- The last number below the bound and, well within 64 bits, the first one that is left
    a double, in a document by itself and in the field of a structure. -/
theorem toJson_whole_bound :
    let below : Binary64 := .ofInt 8999999999999999
    let above : Binary64 := .ofInt (-9000000000000000)
    let i : Implementation :=
      ⟨Implementation.standardRoot, "Entry", ⟨[], ⟨[], false⟩⟩,
        [⟨"id", "id", [.word "u16"], false⟩, ⟨"raw", "raw", [.word "Json"], false⟩]⟩
    let type : List Token → Shape :=
      fun ts => if Token.startsWithWord "u16" ts then .int .u16 else .document
    (∃ m hrange, (Value.number below).toJson = .number (.integer m hrange))
      ∧ (IntType.i64.least ≤ -9000000000000000
        ∧ ∃ hfinite, (Value.number above).toJson = .number (.real above hfinite))
      ∧ i.set type "Raw" (.number above) [.int 1, .document .null]
        = .ok () [.int 1, .document (Value.number above).toJson] := by
  intro below above i type
  have hbelow : below.toRat? = some ((8999999999999999 : Int) : ℚ) :=
    Binary.toInt?_eq_some_iff.mp (by decide +kernel)
  have habove : above.toRat? = some ((-9000000000000000 : Int) : ℚ) :=
    Binary.toInt?_eq_some_iff.mp (by decide +kernel)
  have hname : lowercase "Raw" = "raw" := by decide +kernel
  have hfirst : Arm.First i.arms (lowercase "Raw") 1
      ⟨"raw", "raw", [.word "Json"], false⟩ := by
    rw [hname]
    exact Arm.first_cons_of_ne (by decide) (Arm.first_cons_of_key rfl)
  obtain ⟨hinteger, -⟩ := toJson_whole hbelow
  obtain ⟨-, -, hreal, hfield⟩ := toJson_whole habove
  exact ⟨hinteger.mpr (by decide), ⟨by decide, hreal (by decide)⟩,
    hfield i type "Raw" 1 _ [.int 1, .document .null] hfirst rfl rfl⟩

end Value

end Fixture
