import Fixture.Convert.Scalar
import Fixture.Proofs.Literals
import Fixture.Proofs.Search

/-! # Texts of complex numbers

    A text is parted at its last sign that is not the sign of an exponent.  Whether
    that is where its two parts meet depends on where signs stand in literals: one
    in front, where a text is not parted, and one behind the letter of an exponent,
    where it is not parted either.  So every text that the grammar has a reading for
    is parted as that reading says, and has no other. -/

namespace Fixture

open Literal

variable {f : Format} {s tail : List Char} {c : Char} {previous : Option Char}

namespace Complex

/-! ## Where a text is parted -/

/-- The character is a sign that parts a text, given the character in front. -/
def Parts (previous : Option Char) (c : Char) : Prop :=
  (c = '+' ∨ c = '-') ∧ previous ≠ none ∧ previous ≠ some 'e' ∧ previous ≠ some 'E'

instance (previous : Option Char) (c : Char) : Decidable (Parts previous c) := by
  unfold Parts
  infer_instance

/-- A longer text is in one part if its tail is and its first character is no sign that
    parts it. -/
theorem splitParts?_cons_eq_none_iff :
    splitParts? previous (c :: s) = none ↔ splitParts? (some c) s = none ∧ ¬ Parts previous c := by
  rw [splitParts?]
  cases splitParts? (some c) s with
  | some parts => exact iff_of_false (fun h => nomatch h) (fun h => nomatch h.1)
  | none =>
      show (if Parts previous c then some ([], c :: s) else none) = none ↔ _
      split
      · rename_i h
        exact iff_of_false (fun h' => nomatch h') (fun h' => h'.2 h)
      · rename_i h
        exact iff_of_true rfl ⟨rfl, h⟩

/-- A text is parted in front of a sign, if nothing parts it further back. -/
theorem splitParts?_append {re : List Char} (hc : Parts (re.getLast?.or previous) c)
    (hs : splitParts? (some c) s = none) :
    splitParts? previous (re ++ c :: s) = some (re, c :: s) := by
  induction re generalizing previous with
  | nil =>
      rw [List.nil_append, splitParts?, hs]
      exact if_pos hc
  | cons d re ih =>
      have hlast : (d :: re).getLast?.or previous = re.getLast?.or (some d) := by
        rw [List.getLast?_cons]
        cases re.getLast? <;> rfl
      rw [List.cons_append, splitParts?, ih (hlast ▸ hc)]

/-- The parts make up the text, and the second one begins with a sign. -/
theorem exists_of_splitParts? {re im : List Char} (h : splitParts? previous s = some (re, im)) :
    ∃ c rest, im = c :: rest ∧ s = re ++ im ∧ (c = '+' ∨ c = '-') := by
  induction s generalizing previous re with
  | nil => cases h
  | cons d s ih =>
      rw [splitParts?] at h
      split at h
      · rename_i re' im' hs
        obtain ⟨rfl, rfl⟩ := Prod.mk.inj (Option.some.inj h)
        obtain ⟨c, rest, rfl, rfl, hc⟩ := ih hs
        exact ⟨c, rest, rfl, rfl, hc⟩
      · split at h
        · rename_i hd
          obtain ⟨rfl, rfl⟩ := Prod.mk.inj (Option.some.inj h)
          exact ⟨d, s, rfl, rfl, hd.1⟩
        · cases h

/-- Where no sign is, no text is parted. -/
theorem splitParts?_unsigned_append (h : ∀ c ∈ s, c ≠ '+' ∧ c ≠ '-')
    (htail : ∀ previous, splitParts? previous tail = none) :
    splitParts? previous (s ++ tail) = none := by
  induction s generalizing previous with
  | nil => exact htail previous
  | cons c s ih =>
      obtain ⟨hc, hs⟩ := List.forall_mem_cons.mp h
      exact splitParts?_cons_eq_none_iff.mpr
        ⟨ih hs, fun hparts => hparts.1.elim hc.1 hc.2⟩

/-- A text without signs is in one part. -/
theorem splitParts?_of_unsigned (h : ∀ c ∈ s, c ≠ '+' ∧ c ≠ '-') :
    splitParts? previous s = none := by
  have hnil : splitParts? previous (s ++ []) = none := splitParts?_unsigned_append h fun _ => rfl
  rwa [List.append_nil] at hnil

/-- What has no sign does not part a text that it stands behind. -/
theorem splitParts?_append_unsigned (h : splitParts? previous s = none)
    (htail : ∀ c ∈ tail, c ≠ '+' ∧ c ≠ '-') : splitParts? previous (s ++ tail) = none := by
  induction s generalizing previous with
  | nil => exact splitParts?_of_unsigned htail
  | cons c s ih =>
      obtain ⟨hs, hc⟩ := splitParts?_cons_eq_none_iff.mp h
      exact splitParts?_cons_eq_none_iff.mpr ⟨ih hs, hc⟩

end Complex

/-! ## Literals are not parted -/

namespace Literal

open Fixture.Complex

variable {negative : Bool} {m : Nat} {x : Int} {y : Binary f}

theorem unsigned_of_digits (h : ∀ c ∈ s, c.isDigit = true) : ∀ c ∈ s, c ≠ '+' ∧ c ≠ '-' := by
  intro c hc
  constructor
  · rintro rfl
    cases h _ hc
  · rintro rfl
    cases h _ hc

/-- The sign of an exponent stands behind its letter. -/
theorem IsExponent.splitParts?_eq_none (h : IsExponent tail x) (previous : Option Char) :
    splitParts? previous tail = Option.none := by
  cases h with
  | none => rfl
  | @some letter sign ds negative hletter hsign hne hds =>
      have hds' : ∀ {previous}, splitParts? previous ds = Option.none :=
        splitParts?_of_unsigned (unsigned_of_digits hds)
      have hparts : ∀ {c}, ¬ Parts (Option.some letter) c := by
        rintro c ⟨-, -, he, hE⟩
        exact hletter.elim (fun h => he (h ▸ rfl)) (fun h => hE (h ▸ rfl))
      refine splitParts?_cons_eq_none_iff.mpr ⟨?_, ?_⟩
      · cases hsign with
        | none => exact hds'
        | plus => exact splitParts?_cons_eq_none_iff.mpr ⟨hds', hparts⟩
        | minus => exact splitParts?_cons_eq_none_iff.mpr ⟨hds', hparts⟩
      · rintro ⟨hsign, -⟩
        rcases hletter with rfl | rfl <;> revert hsign <;> decide

/-- A decimal is in one part, also with a sign in its exponent. -/
theorem IsDecimal.splitParts?_eq_none (h : IsDecimal s m x) (previous : Option Char) :
    splitParts? previous s = none := by
  cases h with
  | whole hne hds htail =>
      exact splitParts?_unsigned_append (unsigned_of_digits hds) htail.splitParts?_eq_none
  | point hne hds hds' htail =>
      refine splitParts?_unsigned_append (unsigned_of_digits hds) fun previous => ?_
      refine splitParts?_unsigned_append (s := '.' :: _) ?_ htail.splitParts?_eq_none
      exact List.forall_mem_cons.mpr ⟨by decide, unsigned_of_digits hds'⟩

/-- There is no sign in a text that has none in lower case. -/
theorem unsigned_of_toLower (h : ∀ c ∈ s.map Char.toLower, c ≠ '+' ∧ c ≠ '-') :
    ∀ c ∈ s, c ≠ '+' ∧ c ≠ '-' := by
  intro c hc
  have := h _ (List.mem_map_of_mem hc)
  constructor
  · rintro rfl
    exact this.1 rfl
  · rintro rfl
    exact this.2 rfl

theorem SpellsUnsigned.splitParts?_eq_none (h : SpellsUnsigned negative s y)
    (previous : Option Char) : splitParts? previous s = none := by
  cases h with
  | infinite h =>
      refine splitParts?_of_unsigned (unsigned_of_toLower ?_)
      rcases h with h | h
      · rw [h]
        simp
      · rw [h]
        simp
  | nan h =>
      refine splitParts?_of_unsigned (unsigned_of_toLower ?_)
      rw [h]
      simp
  | decimal h => exact h.splitParts?_eq_none previous

/-- **A LITERAL** is not parted: its own sign stands in front of everything. -/
theorem Spells.splitParts?_eq_none (h : Spells s y) : splitParts? none s = none := by
  obtain ⟨hsign, h⟩ := h
  have hfront : ∀ {c}, ¬ Parts none c := fun hparts => hparts.2.1 rfl
  cases hsign with
  | none => exact h.splitParts?_eq_none none
  | plus => exact splitParts?_cons_eq_none_iff.mpr ⟨h.splitParts?_eq_none _, hfront⟩
  | minus => exact splitParts?_cons_eq_none_iff.mpr ⟨h.splitParts?_eq_none _, hfront⟩

end Literal

/-! ## Readings of texts -/

namespace Complex

variable {z : Complex} {re im : Binary64}

/-- How a text may be put together: from a number alone, from an imaginary part
    with its `i`, or from a number, a sign and what stands between the sign and the
    `i`. -/
inductive Form where
  | real (number : List Char)
  | imaginary (part : List Char)
  | both (number : List Char) (sign : Char) (part : List Char)

/-- The text of a form. -/
def Form.text : Form → List Char
  | real number => number
  | imaginary part => part ++ ['i']
  | both number sign part => number ++ sign :: part ++ ['i']

/-- The complex number that a form stands for.  An imaginary part with nothing but
    its sign, if it has one, is one or minus one. -/
inductive Form.Denotes : Form → Complex → Prop
  | real {s : List Char} {re : Binary64} (h : Spells s re) :
      Denotes (.real s) ⟨re, Binary.ofInt 0⟩
  | one : Denotes (.imaginary []) ⟨Binary.ofInt 0, Binary.ofInt 1⟩
  | plusOne : Denotes (.imaginary ['+']) ⟨Binary.ofInt 0, Binary.ofInt 1⟩
  | minusOne : Denotes (.imaginary ['-']) ⟨Binary.ofInt 0, Binary.ofInt (-1)⟩
  | imaginary {s : List Char} {im : Binary64} (h : Spells s im) :
      Denotes (.imaginary s) ⟨Binary.ofInt 0, im⟩
  | andPlusOne {s : List Char} {re : Binary64} (h : Spells s re) :
      Denotes (.both s '+' []) ⟨re, Binary.ofInt 1⟩
  | andMinusOne {s : List Char} {re : Binary64} (h : Spells s re) :
      Denotes (.both s '-' []) ⟨re, Binary.ofInt (-1)⟩
  | both {s u : List Char} {sign : Char} {re im : Binary64} (hre : Spells s re)
      (hsign : sign = '+' ∨ sign = '-') (him : SpellsUnsigned (sign = '-') u im) :
      Denotes (.both s sign u) ⟨re, im⟩

/-- A text is what is written, without one pair of parentheses around it if there
    is one. -/
def Encloses (s body : List Char) : Prop :=
  s = '(' :: (body ++ [')']) ∨ (s = body ∧ ∀ inside, s ≠ '(' :: (inside ++ [')']))

theorem unwrap_parentheses (inside : List Char) : unwrap ('(' :: (inside ++ [')'])) = inside := by
  show (Text.dropBack? [')'] (inside ++ [')'])).getD _ = inside
  rw [Text.dropBack?_eq_some_iff.mpr rfl]
  rfl

theorem unwrap_of_ne (h : ∀ inside, s ≠ '(' :: (inside ++ [')'])) : unwrap s = s := by
  rw [unwrap]
  split
  · rfl
  · rename_i inside hfront
    obtain rfl := Text.dropFront?_eq_some_iff.mp hfront
    cases hback : Text.dropBack? [')'] inside with
    | none => rfl
    | some body =>
        obtain rfl := Text.dropBack?_eq_some_iff.mp hback
        exact absurd rfl (h body)

/-- What is left is what the text encloses. -/
theorem unwrap_eq_iff {body : List Char} : unwrap s = body ↔ Encloses s body := by
  by_cases h : ∃ inside, s = '(' :: (inside ++ [')'])
  · obtain ⟨inside, rfl⟩ := h
    rw [unwrap_parentheses]
    constructor
    · rintro rfl
      exact Or.inl rfl
    · rintro (heq | ⟨-, hne⟩)
      · exact List.append_cancel_right (List.cons.inj heq).2
      · exact absurd rfl (hne inside)
  · have hne : ∀ inside, s ≠ '(' :: (inside ++ [')']) := fun inside heq => h ⟨inside, heq⟩
    rw [unwrap_of_ne hne]
    exact ⟨fun heq => Or.inr ⟨heq, hne⟩, fun h => h.elim (fun heq => absurd heq (hne body)) And.left⟩

/-! ## One reading for each text -/

/-- The form of a text, by where it is parted. -/
def Form.ofText (s : List Char) : Form :=
  match Text.dropBack? ['i'] s with
  | none => .real s
  | some body =>
      match splitParts? none body with
      | some (number, sign :: part) => .both number sign part
      | _ => .imaginary body

/-- A text that does not end in the unit is a real number. -/
theorem ofText_real (h : ∀ body, s ≠ body ++ ['i']) : Form.ofText s = .real s := by
  have hback : Text.dropBack? ['i'] s = none := by
    cases hbody : Text.dropBack? ['i'] s with
    | none => rfl
    | some body => exact absurd (Text.dropBack?_eq_some_iff.mp hbody) (h body)
  rw [Form.ofText, hback]

theorem ofText_imaginary (h : splitParts? none s = none) :
    Form.ofText (s ++ ['i']) = .imaginary s := by
  rw [Form.ofText, Text.dropBack?_eq_some_iff.mpr rfl]
  show (match splitParts? none s with
    | some (number, sign :: part) => Form.both number sign part
    | _ => Form.imaginary s) = _
  rw [h]

/-- A text in two parts that ends in the unit is a real number and an imaginary one. -/
theorem ofText_both {number part : List Char} {sign : Char}
    (h : splitParts? none (number ++ sign :: part) = some (number, sign :: part)) :
    Form.ofText (number ++ sign :: part ++ ['i']) = .both number sign part := by
  rw [Form.ofText, Text.dropBack?_eq_some_iff.mpr rfl]
  show (match splitParts? none (number ++ sign :: part) with
    | some (number, sign :: part) => Form.both number sign part
    | _ => Form.imaginary (number ++ sign :: part)) = _
  rw [h]

/-- A literal in front of a sign is a part of its own. -/
theorem splitParts?_literal {number part : List Char} {sign : Char} (hre : Spells number re)
    (hsign : sign = '+' ∨ sign = '-') (hpart : splitParts? (some sign) part = none) :
    splitParts? none (number ++ sign :: part) = some (number, sign :: part) := by
  obtain ⟨c, hlast, hend⟩ := hre.exists_end
  refine splitParts?_append ?_ hpart
  rw [hlast]
  refine ⟨hsign, (fun h => nomatch h), ?_, ?_⟩
  · intro h
    obtain rfl := Option.some.inj h
    exact absurd hend (by decide)
  · intro h
    obtain rfl := Option.some.inj h
    exact absurd hend (by decide)

/-- **ONE READING**: a text that stands for a number has only one form that does. -/
theorem Form.Denotes.ofText_text {form : Form} (h : form.Denotes z) :
    Form.ofText form.text = form := by
  cases h with
  | real h =>
      refine ofText_real ?_
      rintro body rfl
      obtain ⟨c, hlast, hend⟩ := h.exists_end
      rw [List.getLast?_concat] at hlast
      obtain rfl := Option.some.inj hlast
      exact absurd hend (by decide)
  | one => exact ofText_imaginary rfl
  | plusOne => exact ofText_imaginary rfl
  | minusOne => exact ofText_imaginary rfl
  | imaginary h => exact ofText_imaginary h.splitParts?_eq_none
  | andPlusOne h => exact ofText_both (splitParts?_literal h (Or.inl rfl) rfl)
  | andMinusOne h => exact ofText_both (splitParts?_literal h (Or.inr rfl) rfl)
  | both hre hsign him =>
      exact ofText_both (splitParts?_literal hre hsign (him.splitParts?_eq_none _))

/-! ## What is read -/

/-- A unit by itself counts once. -/
theorem unitPart_eq_ofInt (negative : Bool) :
    unitPart negative = Binary.ofInt (if negative then -1 else 1) := by
  cases negative <;> rfl

/-- Anything but a sign on its own is read as a literal. -/
theorem imaginary?_of_ne (hnil : s ≠ []) (hplus : s ≠ ['+']) (hminus : s ≠ ['-']) :
    imaginary? s = Literal.read? s := by
  rw [imaginary?, if_neg (fun h => h.elim hnil hplus), if_neg hminus]

/-- A real number has no imaginary part. -/
theorem denotes_real_iff : (Form.real s).Denotes z ↔ Spells s z.re ∧ z.im = Binary.ofInt 0 := by
  constructor
  · rintro ⟨h⟩
    exact ⟨h, rfl⟩
  · rintro ⟨h, him⟩
    obtain ⟨re, im⟩ := z
    obtain rfl := him
    exact .real h

theorem denotes_imaginary_iff :
    (Form.imaginary s).Denotes z ↔ imaginary? s = some z.im ∧ z.re = Binary.ofInt 0 := by
  constructor
  · intro h
    cases h with
    | one => exact ⟨rfl, rfl⟩
    | plusOne => exact ⟨rfl, rfl⟩
    | minusOne => exact ⟨rfl, rfl⟩
    | imaginary h =>
        refine ⟨?_, rfl⟩
        rw [imaginary?_of_ne h.ne_nil]
        · exact read?_eq_some_iff.mpr h
        · rintro rfl
          exact not_spells_sign (Or.inl rfl) h
        · rintro rfl
          exact not_spells_sign (Or.inr rfl) h
  · rintro ⟨him, hre⟩
    obtain ⟨re, im⟩ := z
    obtain rfl := hre
    rw [imaginary?] at him
    split at him
    · rename_i hone
      obtain rfl := Option.some.inj him
      rw [unitPart_eq_ofInt]
      rcases hone with rfl | rfl
      · exact .one
      · exact .plusOne
    · split at him
      · rename_i hminus
        subst hminus
        obtain rfl := Option.some.inj him
        rw [unitPart_eq_ofInt]
        exact .minusOne
      · exact .imaginary (read?_eq_some_iff.mp him)

/-- Of two parts each is read on its own, the second one with its sign. -/
theorem denotes_both_iff {u : List Char} (hc : c = '+' ∨ c = '-') :
    (Form.both s c u).Denotes z ↔ Spells s z.re ∧ imaginary? (c :: u) = some z.im := by
  constructor
  · intro h
    cases h with
    | andPlusOne h => exact ⟨h, rfl⟩
    | andMinusOne h => exact ⟨h, rfl⟩
    | both hre hsign him =>
        have hne : ∀ d, c :: u ≠ [d] := fun d heq => him.ne_nil (List.cons.inj heq).2
        refine ⟨hre, ?_⟩
        rw [imaginary?_of_ne (List.cons_ne_nil c u) (hne '+') (hne '-')]
        exact read?_eq_some_iff.mpr ((spells_sign_cons_iff hc).mpr him)
  · rintro ⟨hre, him⟩
    obtain ⟨re, im⟩ := z
    cases u with
    | nil =>
        rcases hc with rfl | rfl
        · obtain rfl := Option.some.inj him
          exact .andPlusOne hre
        · obtain rfl := Option.some.inj him
          exact .andMinusOne hre
    | cons d u =>
        have hne : ∀ d', c :: d :: u ≠ [d'] := fun d' heq => nomatch (List.cons.inj heq).2
        rw [imaginary?_of_ne (List.cons_ne_nil c _) (hne '+') (hne '-')] at him
        exact .both hre hc ((spells_sign_cons_iff hc).mp (read?_eq_some_iff.mp him))

/-- The form of a text is a form of it, and what is read is what it stands for. -/
theorem ofText_unwrap (s : List Char) :
    (Form.ofText (unwrap s)).text = unwrap s
    ∧ ∀ z, read? s = some z ↔ (Form.ofText (unwrap s)).Denotes z := by
  simp only [read?]
  generalize unwrap s = t
  cases hback : Text.dropBack? ['i'] t with
  | none =>
      have hform : Form.ofText t = .real t := by rw [Form.ofText, hback]
      refine ⟨by rw [hform, Form.text], fun z => ?_⟩
      rw [hform, denotes_real_iff, ← Literal.read?_eq_some_iff, Option.map_eq_some_iff]
      obtain ⟨re, im⟩ := z
      constructor
      · rintro ⟨re, hre, heq⟩
        obtain ⟨rfl, rfl⟩ := Complex.mk.inj heq
        exact ⟨hre, rfl⟩
      · rintro ⟨hre, rfl⟩
        exact ⟨re, hre, rfl⟩
  | some body =>
      obtain rfl := Text.dropBack?_eq_some_iff.mp hback
      cases hsplit : splitParts? none body with
      | none =>
          have hform := ofText_imaginary hsplit
          refine ⟨by rw [hform, Form.text], fun z => ?_⟩
          simp only [hform, denotes_imaginary_iff, hsplit, Option.map_eq_some_iff]
          obtain ⟨re, im⟩ := z
          constructor
          · rintro ⟨im, him, heq⟩
            obtain ⟨rfl, rfl⟩ := Complex.mk.inj heq
            exact ⟨him, rfl⟩
          · rintro ⟨him, rfl⟩
            exact ⟨im, him, rfl⟩
      | some parts =>
          obtain ⟨re, im⟩ := parts
          obtain ⟨c, u, rfl, rfl, hc⟩ := exists_of_splitParts? hsplit
          have hform := ofText_both hsplit
          refine ⟨by rw [hform, Form.text], fun z => ?_⟩
          simp only [hform, denotes_both_iff hc, ← Literal.read?_eq_some_iff, hsplit]
          obtain ⟨re', im'⟩ := z
          cases hre : Literal.read? re with
          | none => simp
          | some re =>
              cases him : imaginary? (c :: u) with
              | none => simp
              | some im => simp

/-- **WHAT IS READ** is what a text within the grammar stands for. -/
theorem read?_eq_some_iff :
    read? s = some z ↔ ∃ form : Form, Encloses s form.text ∧ form.Denotes z := by
  obtain ⟨htext, hread⟩ := ofText_unwrap s
  rw [hread]
  constructor
  · intro h
    exact ⟨_, unwrap_eq_iff.mp htext.symm, h⟩
  · rintro ⟨form, hs, h⟩
    rw [unwrap_eq_iff.mpr hs, h.ofText_text]
    exact h

/-- Signs that belong to no exponent part a text, so what stands between two of
    them must be a literal. -/
example : read? "1+-2i".toList = none ∧ read? "1e+2-i".toList = some ⟨.ofInt 100, .ofInt (-1)⟩ := by
  decide +kernel

end Complex

/-! ## What is converted -/

namespace Convert

/-- Converting a value is reading its text. -/
theorem complex_eq_ok_iff {v : Value} {z : Complex} :
    complex v = .ok z ↔ Complex.read? v.render = some z := by
  rw [complex, scalar_eq_ok_iff]
  cases Complex.read? v.render with
  | none => simp
  | some z' => simp

/-- There is one fault, with the text of the value. -/
theorem complex_eq_error_iff {v : Value} {e : Fault} :
    complex v = .error e ↔ Complex.read? v.render = none
      ∧ e = .parse "Complex" v.text "invalid syntax" := by
  rw [complex, scalar_eq_error_iff]
  cases Complex.read? v.render with
  | none => simp [invalidSyntax]
  | some z => simp

/-- **TEXTS OF COMPLEX NUMBERS**: a value is converted to a complex number exactly if
    its text, without one pair of parentheses around it, has a form that stands for
    the number: a literal alone, an imaginary part with its `i`, or a literal and
    behind its sign the imaginary part.  Everything else is one and the same fault,
    and no text has two forms that stand for numbers. -/
theorem complex_of_form (v : Value) :
    (∀ z, complex v = .ok z ↔
      ∃ form : Complex.Form, Complex.Encloses v.render form.text ∧ form.Denotes z)
    ∧ (∀ e, complex v = .error e ↔
      (¬ ∃ (form : Complex.Form) (z : Complex),
        Complex.Encloses v.render form.text ∧ form.Denotes z)
      ∧ e = .parse "Complex" v.text "invalid syntax")
    ∧ ∀ (form form' : Complex.Form) (z z' : Complex),
      Complex.Encloses v.render form.text → form.Denotes z →
      Complex.Encloses v.render form'.text → form'.Denotes z' → form = form' ∧ z = z' := by
  refine ⟨?_, ?_, ?_⟩
  · intro z
    rw [complex_eq_ok_iff, Complex.read?_eq_some_iff]
  · intro e
    rw [complex_eq_error_iff, Option.eq_none_iff_forall_ne_some]
    refine and_congr_left' ?_
    simp only [Ne, Complex.read?_eq_some_iff, not_exists]
    exact forall_comm
  · intro form form' z z' hs h hs' h'
    have htext : form.text = form'.text :=
      (Complex.unwrap_eq_iff.mpr hs).symm.trans (Complex.unwrap_eq_iff.mpr hs')
    have hform : form = form' := by rw [← h.ofText_text, ← h'.ofText_text, htext]
    have hz := Complex.read?_eq_some_iff.mpr ⟨form, hs, h⟩
    have hz' := Complex.read?_eq_some_iff.mpr ⟨form', hs', h'⟩
    exact ⟨hform, Option.some.inj (hz.symm.trans hz')⟩

/-- Neither sign of an exponent parts a text, in whichever part it stands. -/
theorem complex_of_form_exponents :
    complex (.string "(1e-3+2E+2i)") = .ok ⟨Binary.ofQuotient false 1 1000, Binary.ofInt 200⟩
    ∧ Complex.Form.ofText "1e-3+2E+2i".toList = .both "1e-3".toList '+' "2E+2".toList := by
  have hre : Spells "1e-3".toList (Binary.ofQuotient false 1 1000 : Binary64) :=
    Literal.read?_eq_some_iff.mp (by decide +kernel)
  have him : SpellsUnsigned false "2E+2".toList (Binary.ofInt 200 : Binary64) :=
    unsigned?_eq_some_iff.mp (by decide +kernel)
  have hform : (Complex.Form.both "1e-3".toList '+' "2E+2".toList).Denotes
      ⟨Binary.ofQuotient false 1 1000, Binary.ofInt 200⟩ := .both hre (Or.inl rfl) him
  have hparted : (Complex.Form.ofText "1e-3+2E+2i".toList).Denotes
      ⟨Binary.ofQuotient false 1 1000, Binary.ofInt 200⟩ :=
    ((Complex.ofText_unwrap "1e-3+2E+2i".toList).2 _).mp (by decide +kernel)
  refine ⟨((complex_of_form _).1 _).mpr ⟨_, Or.inl rfl, hform⟩, ?_⟩
  exact ((complex_of_form (.string "(1e-3+2E+2i)")).2.2 _ _ _ _ (Or.inl (by decide)) hparted
    (Or.inl rfl) hform).1

end Convert

end Fixture
