import Fixture.Proofs.Dispatch
import Fixture.Proofs.Lowercase

/-! # Names in any letter case

    A field is found by the lower-case form of a name.  The case of an ASCII letter does
    not show in that form: the letter itself has one image, and what becomes of a sigma
    beside it depends on whether there is a letter, not on which case it has.  A form is
    its own form, too.  So there is one outcome for all spellings of a name, and only a
    fault tells them apart, for it carries the name that was bound. -/

namespace Fixture

/-! ## ASCII letters in a lower-case form -/

namespace Text

/-- The texts differ at most in the case of ASCII letters. -/
def SameLetters (s t : List Char) : Prop :=
  List.Forall₂ (fun c d => c.toLower = d.toLower) s t

instance (s t : List Char) : Decidable (SameLetters s t) := by
  unfold SameLetters
  infer_instance

namespace Lowercase

/-- The capital letters of ASCII. -/
def capitals : List Char := (List.range' 0x41 26).map Char.ofNat

theorem toLower_eq_self_or_mem (c : Char) : c.toLower = c ∨ c ∈ capitals := by
  by_cases h : c.val ≥ 'A'.val ∧ c.val ≤ 'Z'.val
  · refine Or.inr (List.mem_map.mpr ⟨c.toNat, ?_, Char.ofNat_toNat c⟩)
    have hfirst : 0x41 ≤ c.toNat := h.1
    have hlast : c.toNat ≤ 0x5A := h.2
    rw [List.mem_range'_1]
    omega
  · exact Or.inl (dif_neg h)

/-- What holds of capitals and their small letters alike does not tell the cases apart. -/
theorem eq_of_toLower_eq {α : Type} (f : Char → α)
    (hcapitals : (capitals.map fun c => f c.toLower) = capitals.map f) {c d : Char}
    (h : c.toLower = d.toLower) : f c = f d := by
  have hlower : ∀ c, f c.toLower = f c := by
    intro c
    rcases toLower_eq_self_or_mem c with hc | hc
    · rw [hc]
    · exact List.map_inj_left.mp hcapitals c hc
  rw [← hlower c, h, hlower d]

/-- A character that is not ignored decides. -/
theorem startsCased_cons (c : Char) (s : List Char) :
    startsCased (c :: s) = if inRanges ignorable c then startsCased s else inRanges cased c := by
  rw [startsCased, List.dropWhile_cons]
  by_cases hc : inRanges ignorable c = true
  · rw [if_pos hc, if_pos hc]
    rfl
  · rw [if_neg hc, if_neg hc]

/-- Whether a letter comes next does not depend on its case. -/
theorem startsCased_congr {s t : List Char} (h : SameLetters s t) :
    startsCased s = startsCased t := by
  induction h with
  | nil => rfl
  | cons hcd _ ih =>
      rw [startsCased_cons, startsCased_cons, ih,
        eq_of_toLower_eq (inRanges ignorable) (by decide +kernel) hcd,
        eq_of_toLower_eq (inRanges cased) (by decide +kernel) hcd]

/-- A sigma does not see the case of the letters around it. -/
theorem isFinal_congr {before before' after after' : List Char}
    (hbefore : SameLetters before before') (hafter : SameLetters after after') :
    isFinal before after = isFinal before' after' := by
  rw [isFinal, isFinal, startsCased_congr hbefore, startsCased_congr hafter]

/-- Letter case does not show in the form of a text, wherever it stands. -/
theorem behind_congr {before before' s t : List Char} (hbefore : SameLetters before before')
    (h : SameLetters s t) : behind before s = behind before' t := by
  induction h generalizing before before' with
  | nil => rfl
  | @cons c d s t hcd h ih =>
      have hsigma := eq_of_toLower_eq (fun c => decide (c = 'Σ')) (by decide +kernel) hcd
      have hchar := eq_of_toLower_eq ofChar (by decide +kernel) hcd
      have hsame : c = 'Σ' ↔ d = 'Σ' := decide_eq_decide.mp hsigma
      rw [behind, behind, ih (.cons hcd hbefore), isFinal_congr hbefore h, hchar]
      simp only [hsame]

end Lowercase

/-- **ASCII LETTERS IN EITHER CASE** leave the lower-case form of a text as it is. -/
theorem lowercase_congr {s t : List Char} (h : SameLetters s t) : lowercase s = lowercase t :=
  Lowercase.behind_congr .nil h

end Text

/-! ## Faults under another name -/

namespace Fault

/-- The fault that there would have been for another name. -/
def renamed (name : String) : Fault → Fault
  | .fieldLookup _ target => .fieldLookup name target
  | .fieldNotSettable _ target => .fieldNotSettable name target
  | .field _ target source => .field name target source
  | e => e

/-- The name that was bound. -/
def name? : Fault → Option String
  | .fieldLookup name _ | .fieldNotSettable name _ | .field name _ _ => some name
  | _ => none

end Fault

/-! ## Binding -/

namespace Derive.Implementation

variable {τ δ : Type} [FieldType τ δ] {type : List Token → τ} {name other : String} {v : Value}

/-- Names with one lower-case form are bound alike. -/
theorem set_eq_of_lowercase_eq (i : Implementation) (h : lowercase other = lowercase name) :
    i.set type other v
      = ((i.set type name v).adaptExcept (Fault.renamed other)
        : Edit Fixture.Fault (Record δ) Unit) := by
  funext record
  rw [set_eq_iff]
  show Arm.Ends i.arms type i.target other v record
    (EStateM.adaptExcept (Fault.renamed other) (i.set type name v) record)
  rw [EStateM.adaptExcept]
  have hends := i.ends_set type name v record
  generalize i.set type name v record = o at hends ⊢
  cases hends with
  | unknown hnone => exact .unknown (h ▸ hnone)
  | refused hfirst hskip => exact .refused (h ▸ hfirst) hskip
  | failed hfirst hskip he => exact .failed (h ▸ hfirst) hskip he
  | stored hfirst hskip hd => exact .stored (h ▸ hfirst) hskip hd

/-- A fault carries the name as it was written. -/
theorem name?_of_set {i : Implementation} {record after : Record δ} {e : Fixture.Fault}
    (h : i.set type name v record = .error e after) : e.name? = some name := by
  rw [set_eq_iff] at h
  cases h with
  | unknown | refused | failed => rfl

/-- **LETTER CASE DOES NOT MATTER**: a value bound under a name, under the name with ASCII
    letters of the other case and under the lower-case form of the name leaves the same
    record with the same outcome, from every record; a fault is the same one under the
    name that was bound. -/
theorem set_ignores_case (i : Implementation) (type : List Token → τ) (name : String)
    (v : Value) :
    (∀ other, Text.SameLetters other.toList name.toList ∨ other = lowercase name →
      i.set type other v
        = ((i.set type name v).adaptExcept (Fault.renamed other)
          : Edit Fixture.Fault (Record δ) Unit))
    ∧ ∀ (other : String) (record after : Record δ) (e : Fixture.Fault),
      i.set type other v record = .error e after → e.name? = some other := by
  refine ⟨fun other hother => set_eq_of_lowercase_eq i ?_, fun _ _ _ _ he => name?_of_set he⟩
  rcases hother with hletters | rfl
  · exact congrArg String.ofList (Text.lowercase_congr hletters)
  · rw [lowercase, lowercase, String.toList_ofList, Text.lowercase_lowercase]

/-- A key with two sigmas is found under a name in capitals, under that name with small
    ASCII letters and under the key itself. -/
theorem set_ignores_case_sigma :
    let rename : List Token := [.word "bind", .group .parenthesis
      [.word "rename", Token.sign "=", .literal "\"GRÖSSE ΣΑΣ\""]]
    let item : Item :=
      ⟨[], "Sizes", ⟨[], ⟨[], false⟩⟩, .fields [⟨[rename], "size", [.word "u16"]⟩]⟩
    let i : Implementation :=
      ⟨standardRoot, "Sizes", ⟨[], ⟨[], false⟩⟩,
        [⟨lowercase "GRÖSSE ΣΑΣ", "size", [.word "u16"], false⟩]⟩
    let type : List Token → Shape := fun _ => .int .u16
    let record : Record := [.int 1]
    let fault := Fault.parse "u16" "x" IntType.Fault.invalidDigit.message
    ofItem item = .ok i
      ∧ Text.SameLetters "grÖsse ΣΑΣ".toList "GRÖSSE ΣΑΣ".toList
      ∧ i.set type "grÖsse ΣΑΣ" (.string "7") record = .ok () [.int 7]
      ∧ i.set type "grösse σας" (.string "7") record = .ok () [.int 7]
      ∧ i.set type "grösse σας" (.string "x") record
        = .error (.field "grösse σας" "Sizes" fault) record := by
  intro rename item i type record fault
  have hletters : Text.SameLetters "grÖsse ΣΑΣ".toList "GRÖSSE ΣΑΣ".toList := by decide
  have hfirst : Arm.First i.arms (lowercase "GRÖSSE ΣΑΣ") 0
      ⟨lowercase "GRÖSSE ΣΑΣ", "size", [.word "u16"], false⟩ :=
    Arm.first_cons_of_key rfl
  have hlower : "grösse σας" = lowercase "GRÖSSE ΣΑΣ" := by decide +kernel
  have hstored : i.set type "GRÖSSE ΣΑΣ" (.string "7") record = .ok () [.int 7] :=
    set_eq_iff.mpr (.stored hfirst rfl (by rfl))
  have hfailed : i.set type "GRÖSSE ΣΑΣ" (.string "x") record
      = .error (.field "GRÖSSE ΣΑΣ" "Sizes" fault) record :=
    set_eq_iff.mpr (.failed hfirst rfl (by rfl))
  have hseven := (set_ignores_case i type "GRÖSSE ΣΑΣ" (.string "7")).1
  have hx := (set_ignores_case i type "GRÖSSE ΣΑΣ" (.string "x")).1
  refine ⟨by rfl, hletters, ?_, ?_, ?_⟩
  · rw [hseven _ (Or.inl hletters)]
    show EStateM.adaptExcept _ _ record = _
    rw [EStateM.adaptExcept, hstored]
  · rw [hseven _ (Or.inr hlower)]
    show EStateM.adaptExcept _ _ record = _
    rw [EStateM.adaptExcept, hstored]
  · rw [hx _ (Or.inr hlower)]
    show EStateM.adaptExcept _ _ record = _
    rw [EStateM.adaptExcept, hfailed]
    rfl

end Derive.Implementation

end Fixture
